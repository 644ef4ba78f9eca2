import Workings.Proofs.Expr.Viability
import Workings.Proofs.Token.Placement

/-!
# Faults of syntax point at the first impossible token

A reader that succeeds stops where its phrase ends, and one that fails for the syntax is stuck at
the token that its fault points at: what stands before that token begins an expression, and with
that token it does not. So the readers find fault neither early nor late.
-/

namespace Workings

variable {level : Precedence}

namespace Reader

variable {region : Region} {levels : Nat} {tokens behind : List Token} {fault : Fault}

/-! ## Where readers stop -/

/-- A word that is an operator between operands is its symbol. -/
theorem eq_operator_of_binaryOp? {word : Word} {op : BinaryOp}
    (isOperator : word.binaryOp? = some op) : word = .operator op.symbol := by
  cases word with
  | operator symbol => exact congrArg Word.operator (BinaryOp.ofSymbol?_eq_some_iff.1 isOperator)
  | _ => contradiction

/-- A chain ends where its last operand ends and no operator of its level follows. -/
theorem endsBefore_of_operator? (ends : level.operand.EndsBefore (tokens.map Token.word))
    (noOperator : operator? level tokens = none) :
    (Phrase.chain level).EndsBefore (tokens.map Token.word) := by
  intro word isNext op isOperator
  have lt : op.precedence.rank < level.operand.rank := ends word isNext op isOperator
  have next : level.operand.rank = level.rank + 1 := by cases level <;> rfl
  have different : op.precedence ≠ level := by
    intro binds
    cases tokens with
    | nil => contradiction
    | cons token others =>
      obtain rfl := Option.some.inj isNext
      rw [operator?_eq_some (eq_operator_of_binaryOp? isOperator) binds] at noOperator
      contradiction
  have ranks_ne : op.precedence.rank ≠ level.rank := by
    intro same
    exact different (by cases level <;> cases op <;> first | rfl | contradiction)
  exact show op.precedence.rank < level.rank by omega

/-- A begun chain is read up to where it ends. -/
theorem chainAfter_endsBefore {operand : Reader Expr}
    (suffix : ∀ {tokens expr behind}, operand tokens = .ok (expr, behind) → behind <:+ tokens)
    (operandEnds : ∀ {tokens expr behind}, operand tokens = .ok (expr, behind) →
      level.operand.EndsBefore (behind.map Token.word))
    {budget height : Nat} {left expr : Expr} (enough : tokens.length ≤ budget)
    (ends : level.operand.EndsBefore (tokens.map Token.word))
    (reads : chainAfter level operand budget left height tokens = .ok (expr, behind)) :
    (Phrase.chain level).EndsBefore (behind.map Token.word) := by
  induction budget generalizing left height tokens with
  | zero =>
    obtain ⟨-, rfl⟩ := Prod.mk.inj (Except.ok.inj reads)
    obtain rfl := List.eq_nil_of_length_eq_zero (Nat.le_zero.1 enough)
    exact Phrase.endsBefore_nil _
  | succ budget hypothesis =>
    unfold chainAfter at reads
    split at reads
    · rename_i noOperator
      obtain ⟨-, rfl⟩ := Prod.mk.inj (Except.ok.inj reads)
      exact endsBefore_of_operator? ends noOperator
    · rename_i op span following found
      obtain ⟨⟨right, rest⟩, readsRight, goesOn⟩ := of_bind_eq_ok reads
      dsimp only at goesOn
      split at goesOn
      · contradiction
      · obtain ⟨token, rfl, -⟩ := of_operator? found
        have shorter := (suffix readsRight).length_le
        exact hypothesis (by simp only [List.length_cons] at enough; omega)
          (operandEnds readsRight) goesOn

/-- A chain is read up to where it ends. -/
theorem chain_endsBefore {operand : Reader Expr} {expr : Expr}
    (suffix : ∀ {tokens expr behind}, operand tokens = .ok (expr, behind) → behind <:+ tokens)
    (operandEnds : ∀ {tokens expr behind}, operand tokens = .ok (expr, behind) →
      level.operand.EndsBefore (behind.map Token.word))
    (reads : chain level operand tokens = .ok (expr, behind)) :
    (Phrase.chain level).EndsBefore (behind.map Token.word) := by
  obtain ⟨⟨first, rest⟩, readsFirst, goesOn⟩ := of_bind_eq_ok reads
  exact chainAfter_endsBefore suffix operandEnds (Nat.le_refl _) (operandEnds readsFirst) goesOn

/-- What the operators of a level join is read from the beginning of the tokens. -/
theorem suffix_of_operandAt {expr : Expr}
    (reads : operandAt region levels level tokens = .ok (expr, behind)) : behind <:+ tokens := by
  obtain ⟨read, rfl, -⟩ := sound_operandAt region levels level reads
  exact List.suffix_append _ _

/-- A chain is read soundly. -/
theorem sound_chainAt {expr : Expr}
    (reads : chainAt region levels level tokens = .ok (expr, behind)) :
    ∃ read, tokens = read ++ behind ∧ Derives (.chain level) (read.map Token.word) expr.bare
      ∧ expr.Within levels :=
  Sound.chain (fun readsOperand => sound_operandAt region levels level readsOperand) reads

/-- A power is read up to where it ends. -/
theorem power_endsBefore {expr : Expr}
    (reads : chainAt region levels .power tokens = .ok (expr, behind)) :
    (Phrase.chain .power).EndsBefore (behind.map Token.word) := by
  refine chain_endsBefore suffix_of_operandAt (fun _ word _ op _ => ?_) reads
  cases op <;> decide

/-- A power is read up to where it ends, with its sign or without one. -/
theorem factor_endsBefore {expr : Expr}
    (reads : factor region (deeper region levels) tokens = .ok (expr, behind)) :
    Phrase.factor.EndsBefore (behind.map Token.word) := by
  simp only [factor] at reads
  split at reads
  · exact @power_endsBefore region levels _ _ _ reads
  · cases levels with
    | zero => contradiction
    | succ levels =>
      obtain ⟨⟨operand, rest⟩, readsPower, answers⟩ := of_bind_eq_ok reads
      obtain ⟨-, rfl⟩ := Prod.mk.inj (Except.ok.inj answers)
      exact @power_endsBefore region levels _ _ _ readsPower

/-- What the operators of a level join is read up to where it ends. -/
theorem operandAt_endsBefore {expr : Expr}
    (reads : operandAt region levels level tokens = .ok (expr, behind)) :
    level.operand.EndsBefore (behind.map Token.word) := by
  cases level with
  | term =>
    have factorEnds {tokens expr behind}
        (readsFactor : operandAt region levels .factor tokens = .ok (expr, behind)) :
        Phrase.factor.EndsBefore (behind.map Token.word) := factor_endsBefore readsFactor
    have products : chainAt region levels .factor tokens = .ok (expr, behind) := reads
    exact chain_endsBefore suffix_of_operandAt factorEnds products
  | factor => exact factor_endsBefore reads
  | power =>
    intro word _ op _
    cases op <;> decide

/-- A chain is read up to where it ends. -/
theorem chainAt_endsBefore {expr : Expr}
    (reads : chainAt region levels level tokens = .ok (expr, behind)) :
    (Phrase.chain level).EndsBefore (behind.map Token.word) :=
  chain_endsBefore suffix_of_operandAt operandAt_endsBefore reads

/-! ## Where readers fail -/

end Reader

/-- The grammar was violated. -/
def Cause.IsSyntactic : Cause → Prop
  | .unexpected .. | .endsEarly _ | .trailing | .missingDifferential => True
  | _ => False

namespace Reader

/-- A reader is stuck behind what it read, and its fault is there. -/
def StuckAt (region : Region) (phrase : Phrase) (tokens : List Token) (fault : Fault) : Prop :=
  ∃ read rest, tokens = read ++ rest ∧ Misplaced region rest fault
    ∧ Stuck phrase (read.map Token.word) (rest.map Token.word)

/-- The first words of tokens are the words of the first tokens. -/
theorem forall_head?_word {rest : List Token} {property : Word → Prop}
    (holds : ∀ token ∈ rest.head?, property token.word) :
    ∀ word ∈ (rest.map Token.word).head?, property word := by
  cases rest with
  | nil => simp
  | cons token others => simpa using holds

/-- A phrase that is not read for its syntax is stuck at the fault. -/
theorem Fails.stuckAt {phrase : Phrase} (fails : Fails region levels phrase tokens fault)
    (syntactic : fault.cause.IsSyntactic) : StuckAt region phrase tokens fault := by
  induction fails with
  | first _ hypothesis =>
    obtain ⟨read, rest, same, misplaced, stuck⟩ := hypothesis syntactic
    exact ⟨read, rest, same, misplaced, stuck.first⟩
  | later begun found _ hypothesis =>
    obtain ⟨read, rest, rfl, misplaced, stuck⟩ := hypothesis syntactic
    obtain ⟨front, rfl, derives⟩ := begun.derives
    obtain ⟨token, rfl, word, binds, -⟩ := of_operator? found
    refine ⟨front ++ token :: read, rest, by simp, misplaced, ?_⟩
    rw [List.map_append, List.map_cons, word]
    exact stuck.later derives binds
  | tall => exact absurd syntactic id
  | signed found _ hypothesis =>
    obtain ⟨read, rest, rfl, misplaced, stuck⟩ := hypothesis syntactic
    obtain ⟨token, rfl, word⟩ := of_sign? found
    refine ⟨token :: read, rest, rfl, misplaced, ?_⟩
    rw [List.map_cons, word]
    exact stuck.signed _
  | unsigned noSign _ hypothesis =>
    obtain ⟨read, rest, rfl, misplaced, stuck⟩ := hypothesis syntactic
    refine ⟨read, rest, rfl, misplaced, stuck.unsigned fun op isSign => ?_⟩
    rw [← List.map_append] at isSign
    cases same : read ++ rest with
    | nil => simp [same] at isSign
    | cons token others =>
      rw [same] at isSign noSign
      rw [sign?_eq_some (Option.some.inj isSign)] at noSign
      contradiction
  | refused => exact absurd syntactic id
  | noOperand noneBegins misplaced =>
    exact ⟨[], _, rfl, misplaced, .noOperand (forall_head?_word noneBegins)⟩
  | unopened form noOpening misplaced =>
    exact ⟨[_], _, rfl, misplaced, .unopened form (by simp) (forall_head?_word noOpening)⟩
  | @inside _ front _ opening _ _ form isOpening _ hypothesis =>
    obtain ⟨read, rest, rfl, misplaced, stuck⟩ := hypothesis syntactic
    refine ⟨front ++ opening :: read, rest, by simp, misplaced, ?_⟩
    rw [List.map_append, List.map_cons, isOpening]
    exact stuck.inside form
  | @unclosed _ front _ behind opening _ _ _ form isOpening reads noClosing misplaced =>
    obtain ⟨read, rfl, derives, -⟩ := sound_chainAt reads
    refine ⟨front ++ opening :: read, behind, by simp, misplaced, ?_⟩
    rw [List.map_append, List.map_cons, isOpening]
    exact .unclosed form derives (chainAt_endsBefore reads) (forall_head?_word noClosing)
  | @undifferentiated _ _ behind sign opening closing _ _ isSign isOpening reads isClosing
      noDifferential misplaced =>
    obtain ⟨read, rfl, derives, -⟩ := sound_chainAt reads
    refine ⟨sign :: opening :: (read ++ [closing]), behind, by simp, misplaced, ?_⟩
    simp only [List.map_cons, List.map_append, List.map_nil, isSign, isOpening, isClosing]
    exact .undifferentiated derives (forall_head?_word noDifferential)

/-- Tokens that are not read for their syntax are viable up to the fault and no further. -/
theorem firstImpossible_of_whole (fails : whole region tokens = .error fault)
    (syntactic : fault.cause.IsSyntactic) :
    ∃ read rest, tokens = read ++ rest ∧ Misplaced region rest fault
      ∧ FirstImpossible (read.map Token.word) (rest.map Token.word) := by
  rcases of_bind_eq_error fails with expressionFails | ⟨⟨expr, rest⟩, reads, goesOn⟩
  · have chainFails : chainAt region region.ceiling .term tokens = .error fault := expressionFails
    obtain ⟨read, rest, same, misplaced, stuck⟩ :=
      (chainsFail region _ chainFails).stuckAt syntactic
    exact ⟨read, rest, same, misplaced, stuck.firstImpossible⟩
  · have chainReads : chainAt region region.ceiling .term tokens = .ok (expr, rest) := reads
    obtain ⟨read, rfl, derives, -⟩ := sound_chainAt chainReads
    dsimp only at goesOn
    split at goesOn
    · contradiction
    · rename_i token others
      obtain rfl := Except.error.inj goesOn
      exact ⟨read, token :: others, rfl, .trailing token others,
        derives.firstImpossible (chainAt_endsBefore chainReads)⟩

/-- A misplaced token is where its fault points. -/
theorem Misplaced.spans_eq (misplaced : Misplaced region behind fault) :
    fault.spans = [here region behind] := by
  cases misplaced <;> rfl

/-- A fault that misses more at the end of the text is at the end. -/
theorem Misplaced.eq_nil (misplaced : Misplaced region behind fault) {expected : Expectation}
    (endsEarly : fault.cause = .endsEarly expected) : behind = [] := by
  cases misplaced with
  | ended => rfl
  | _ => contradiction

end Reader

/-- The fault points at the token with this index, or behind the last one at the end of the text. -/
def Fault.PointsAt (fault : Fault) (region : Region) (tokens : List Token) (index : Nat) : Prop :=
  index ≤ tokens.length ∧ fault.spans = [Reader.here region (tokens.drop index)]

namespace Expr

/-- A text that the grammar does not read for its syntax has a fault that points at exactly one
place. The words before can be completed to an expression by more words, so that at the end of the
text more words are needed, and with the word at that place they cannot. A fault that misses more at
the end of the text is there. -/
theorem faults_at_first_impossible {source : String} {ceiling : Nat} {tokens : List Token}
    {fault : Fault} (scanned : Token.scan? 0 source.toList = .ok tokens)
    (fails : readRegion 0 source.toList ceiling = .error fault)
    (syntactic : fault.cause.IsSyntactic) :
    ∃ index,
      (∀ other, fault.PointsAt ⟨byteLength source.toList, ceiling⟩ tokens other ↔ other = index)
      ∧ Completable .expression ((tokens.take index).map Token.word)
      ∧ (index < tokens.length → ¬ Viable ((tokens.take (index + 1)).map Token.word))
      ∧ (index = tokens.length → Completable .expression (tokens.map Token.word))
      ∧ ∀ expected, fault.cause = .endsEarly expected → index = tokens.length := by
  have whole : Reader.whole ⟨byteLength source.toList, ceiling⟩ tokens = .error fault := by
    simpa [readRegion, scanned, bind, Except.bind] using fails
  have placed : Placed (byteLength source.toList) 0 tokens := by
    simpa using Lexer.placed_of_scan? scanned
  obtain ⟨read, rest, rfl, misplaced, first⟩ := Reader.firstImpossible_of_whole whole syntactic
  refine ⟨read.length, fun other => ?_, by simpa using first.completable, ?_, ?_, ?_⟩
  · have inside : read.length ≤ (read ++ rest).length := by simp
    have there : Reader.here ⟨byteLength source.toList, ceiling⟩ ((read ++ rest).drop read.length)
        = Reader.here ⟨byteLength source.toList, ceiling⟩ rest := by simp
    constructor
    · rintro ⟨otherInside, points⟩
      rw [misplaced.spans_eq, ← there] at points
      exact (placed.here_injective inside otherInside (List.singleton_inj.1 points)).symm
    · rintro rfl
      exact ⟨inside, by rw [misplaced.spans_eq, there]⟩
  · intro before
    cases rest with
    | nil => simp at before
    | cons token others =>
      have words_eq : ((read ++ token :: others).take (read.length + 1)).map Token.word
          = read.map Token.word ++ [token.word] := by
        simp [List.take_append]
      rw [words_eq]
      exact first.impossible token.word rfl
  · intro atEnd
    obtain rfl : rest = [] := by simpa using atEnd
    simpa using first.completable
  · intro expected endsEarly
    rw [misplaced.eq_nil endsEarly, List.append_nil]

/-- In an unfinished sum between parentheses, the parenthesis that closes is the first impossible
word. -/
theorem faults_at_first_impossible_sum :
    Token.scan? 0 "(x+)".toList = .ok [⟨.opening, "(", ⟨0, 1⟩⟩, ⟨.name, "x", ⟨1, 2⟩⟩,
      ⟨.operator, "+", ⟨2, 3⟩⟩, ⟨.closing, ")", ⟨3, 4⟩⟩]
    ∧ Completable .expression [.opening, .name "x", .operator "+"]
    ∧ ¬ Viable [.opening, .name "x", .operator "+", .closing] := by
  have scanned : Token.scan? 0 "(x+)".toList = .ok [⟨.opening, "(", ⟨0, 1⟩⟩, ⟨.name, "x", ⟨1, 2⟩⟩,
      ⟨.operator, "+", ⟨2, 3⟩⟩, ⟨.closing, ")", ⟨3, 4⟩⟩] := by rfl
  have fails : readRegion 0 "(x+)".toList 1
      = .error (.within ⟨3, 4⟩ (.unexpected .operand .closing ")")) := by rfl
  obtain ⟨index, points, completable, impossible, -⟩ :=
    faults_at_first_impossible scanned fails trivial
  obtain rfl : 3 = index := (points 3).1 ⟨by decide, rfl⟩
  exact ⟨scanned, completable, impossible (by decide)⟩

end Expr

end Workings
