import Workings.Expr.Walk
import Workings.Proofs.Expr.Height
import Workings.Proofs.Token.Guarded

/-!
# Walks do what the readers do

A walk that stands in front of some tokens finds what the reader finds at the beginning of these
tokens, and then stands in front of the rest, in as many levels as before. It never breaks off where
there are not too many tokens: its place is among the tokens, it is nested in no more levels than
there are tokens behind it, and no tree is taller than the tokens it was read from.
-/

namespace Workings

/-! ## Heights -/

namespace Expr

/-- Expressions that do not reach far down are measured without breaking off. -/
theorem guardedDeepest_eq (greatest : Nat) (stack : List (Expr × Nat))
    (low : ∀ entry ∈ stack, entry.2 + entry.1.height ≤ 2 ^ 31 + 1) :
    guardedDeepest greatest stack = .ok (deepest greatest stack) := by
  fun_induction deepest greatest stack with
  | case1 greatest => rw [guardedDeepest]
  | case2 greatest expr level stack below hypothesis =>
    obtain ⟨exprLow, others⟩ := List.forall_mem_cons.1 low
    obtain ⟨levelLow, childrenLow⟩ := (expr.add_height_le_iff level _).1 exprLow
    have belowLow : ∀ entry ∈ below.reverse, entry.2 + entry.1.height ≤ 2 ^ 31 + 1 := by
      simpa [below] using childrenLow
    rw [guardedDeepest]
    split
    · rename_i isLeaf
      rw [List.isEmpty_iff] at isLeaf
      simpa [below, isLeaf] using hypothesis (List.forall_mem_append.2 ⟨belowLow, others⟩)
    · rw [Guarded.add_eq (by omega), Guarded.ok_bind]
      exact hypothesis (List.forall_mem_append.2 ⟨belowLow, others⟩)

/-- The height of a low expression is measured without breaking off. -/
theorem guardedHeight_eq {expr : Expr} (low : expr.height ≤ 2 ^ 31) :
    expr.guardedHeight = .ok expr.height := by
  have reach : 1 + expr.height ≤ 2 ^ 31 + 1 := by omega
  rw [guardedHeight, guardedDeepest_eq 0 [(expr, 1)] (by simpa using reach)]
  exact congrArg Except.ok expr.measuredHeight_eq

/-- The height of a low expression is known, or can be measured. -/
theorem knownHeight_eq {expr : Expr} {height : Nat} {height? : Option Nat}
    (height_eq : height = height?.getD expr.height) (low : height ≤ 2 ^ 31) :
    expr.knownHeight height? = .ok height := by
  subst height_eq
  cases height? with
  | none => exact guardedHeight_eq low
  | some => rfl

end Expr

/-- What the tree of a begun chain adds to the height of the whole chain. -/
def Phrase.begun : Phrase → Nat
  | .after _ left => left.height
  | _ => 0

/-- No tree is taller than its words are many. -/
theorem Derives.height_le {phrase : Phrase} {words : List Word} {expr : Expr}
    (derives : Derives phrase words expr) : expr.height ≤ phrase.begun + words.length := by
  induction derives with
  | @chain level =>
    have begun_eq : level.operand.begun = 0 := by cases level <;> rfl
    simp only [Phrase.begun, List.length_append] at *
    omega
  | @joined level =>
    have begun_eq : level.operand.begun = 0 := by cases level <;> rfl
    simp only [Phrase.begun, Expr.height, List.length_cons, List.length_append] at *
    omega
  | _ =>
    simp only [Phrase.begun, Expr.height, List.length_cons, List.length_append, List.length_nil]
      at *
    omega

/-- What is read soundly is no taller than there are tokens. -/
theorem Reader.Sound.height_le {ceiling : Nat} {phrase : Phrase} {reader : Reader Expr}
    (sound : Sound ceiling phrase reader) (begun_eq : phrase.begun = 0) {tokens rest : List Token}
    {expr : Expr} (reads : reader tokens = .ok (expr, rest)) : expr.height ≤ tokens.length := by
  obtain ⟨read, rfl, derives, -⟩ := sound reads
  have le := derives.height_le
  rw [begun_eq, Expr.height_bare, List.length_map] at le
  rw [List.length_append]
  omega

/-! ## Keeping track -/

/-- What a reader finds and what a walk finds: the same value, with the walk in front of the tokens
that the reader leaves, or the same fault. The walk is `depth` levels in, and has come to `least` at
least. -/
inductive Tracks {α : Type} (tokens : List Token) (depth least : Nat) :
    Except Fault (α × List Token) → Guarded (Except Fault α × Place) → Prop where
  | found {value : α} {next : Nat} (least_le : least ≤ next) (le_length : next ≤ tokens.length) :
      Tracks tokens depth least (.ok (value, tokens.drop next)) (.ok (.ok value, ⟨next, depth⟩))
  | failed {fault : Fault} {next : Nat} :
      Tracks tokens depth least (.error fault) (.ok (.error fault, ⟨next, depth⟩))

/-- A walk that has come far has come less far. -/
theorem Tracks.mono {α : Type} {tokens : List Token} {depth least earlier : Nat}
    {read : Except Fault (α × List Token)} {walked : Guarded (Except Fault α × Place)}
    (tracks : Tracks tokens depth least read walked) (le : earlier ≤ least) :
    Tracks tokens depth earlier read walked := by
  cases tracks with
  | found least_le le_length => exact .found (Nat.le_trans le least_le) le_length
  | failed => exact .failed

/-- A ground on which nothing breaks off: its tokens are not too many, and legible. -/
structure Ground.Firm (ground : Ground) : Prop where
  short : ground.tokens.length < 2 ^ 31
  legible : ∀ token ∈ ground.tokens, token.Legible

namespace Walk

variable {α β : Type} {ground : Ground} {depth index : Nat}

/-- A walk goes on with what comes of the walk before it. -/
theorem bind_apply (walk : Walk α) (goesOn : α → Walk β) (place : Place) :
    (walk >>= goesOn) ground place = (walk ground place >>= fun result =>
      ExceptT.bindCont (fun value => goesOn value ground) result.1 result.2) :=
  rfl

/-- A walk goes on with what it found, from where it came to. -/
theorem bind_apply_found {walk : Walk α} {goesOn : α → Walk β} {place after : Place} {value : α}
    (found : walk ground place = .ok (.ok value, after)) :
    (walk >>= goesOn) ground place = goesOn value ground after := by
  rw [bind_apply, found]
  rfl

/-- A walk that failed does not go on. -/
theorem bind_apply_failed {walk : Walk α} {goesOn : α → Walk β} {place after : Place}
    {fault : Fault} (failed : walk ground place = .ok (.error fault, after)) :
    (walk >>= goesOn) ground place = .ok (.error fault, after) := by
  rw [bind_apply, failed]
  rfl

/-- A walk that keeps track of a reader goes on like it. -/
theorem bind_tracks {read : Except Fault (α × List Token)} {walk : Walk α}
    {next : α × List Token → Except Fault (β × List Token)} {goesOn : α → Walk β}
    {first least : Nat}
    (tracks : Tracks ground.tokens depth first read (walk ground ⟨index, depth⟩))
    (nextTracks : ∀ value place, read = .ok (value, ground.tokens.drop place) → first ≤ place →
      place ≤ ground.tokens.length →
      Tracks ground.tokens depth least (next (value, ground.tokens.drop place))
        (goesOn value ground ⟨place, depth⟩)) :
    Tracks ground.tokens depth least (read >>= next)
      ((walk >>= goesOn) ground ⟨index, depth⟩) := by
  generalize walked : walk ground ⟨index, depth⟩ = result at tracks
  cases tracks with
  | found least_le le_length =>
    rw [bind_apply_found walked]
    exact nextTracks _ _ rfl least_le le_length
  | failed =>
    rw [bind_apply_failed walked]
    exact .failed

/-! ## Single tokens -/

/-- A guarded computation that does not break off leaves a walk where it is. -/
theorem guarded_bind {computation : Guarded α} {value : α} (succeeds : computation = .ok value)
    (goesOn : α → Walk β) (place : Place) :
    ((liftM computation : Walk α) >>= goesOn) ground place = goesOn value ground place := by
  subst succeeds
  rfl

/-- A walk knows its ground. -/
theorem read_bind (goesOn : Ground → Walk β) (place : Place) :
    ((read : Walk Ground) >>= goesOn) ground place = goesOn ground ground place :=
  rfl

/-- A walk knows its place. -/
theorem get_bind (goesOn : Place → Walk β) (place : Place) :
    ((get : Walk Place) >>= goesOn) ground place = goesOn place ground place :=
  rfl

/-- A walk looks at the token it stands in front of. -/
theorem current_bind (goesOn : Option Token → Walk β) (place : Place) :
    (current >>= goesOn) ground place = goesOn ground.tokens[place.index]? ground place :=
  rfl

/-- There is a token to look at, or there is nothing left. -/
theorem next_or_end (tokens : List Token) (index : Nat) :
    (tokens[index]? = none ∧ tokens.drop index = [])
      ∨ ∃ token, tokens[index]? = some token ∧ tokens.drop index = token :: tokens.drop (index + 1)
        ∧ index < tokens.length := by
  rcases Nat.lt_or_ge index tokens.length with less | ge
  · exact .inr ⟨tokens[index], List.getElem?_eq_getElem less, List.drop_eq_getElem_cons less, less⟩
  · exact .inl ⟨List.getElem?_eq_none ge, List.drop_eq_nil_of_le ge⟩

/-- A walk fails where a reader would. -/
theorem fail_eq (cause : Cause) (place : Place) :
    (fail cause : Walk α) ground place
      = .ok (.error (.within (Reader.here ground.region (ground.tokens.drop place.index)) cause),
        place) := by
  have here_eq : Reader.here ground.region (ground.tokens.drop place.index)
      = Reader.here ground.region ground.tokens[place.index]?.toList := by
    rcases next_or_end ground.tokens place.index with ⟨none_eq, drop_eq⟩ | ⟨_, some_eq, drop_eq, -⟩
    · rw [none_eq, drop_eq]
      rfl
    · rw [some_eq, drop_eq]
      rfl
  rw [here_eq]
  rfl

/-- A walk goes past a token of a firm ground. -/
theorem step_eq (firm : ground.Firm) (less : index < ground.tokens.length) :
    step ground ⟨index, depth⟩ = .ok (.ok (), ⟨index + 1, depth⟩) := by
  have short := firm.short
  have added : Guarded.add index 1 = .ok (index + 1) := Guarded.add_eq (by omega)
  have unfolded : step ground ⟨index, depth⟩
      = ((liftM (Guarded.add index 1) : Walk Nat) >>= fun index => set (Place.mk index depth))
        ground ⟨index, depth⟩ := rfl
  rw [unfolded, guarded_bind added]
  rfl

/-- A walk goes past a token that is there. -/
theorem advance_eq (firm : ground.Firm) (less : index < ground.tokens.length) :
    advance ground ⟨index, depth⟩ = .ok (.ok (), ⟨index + 1, depth⟩) := by
  have unfolded : advance ground ⟨index, depth⟩
      = (if index < ground.tokens.length then step else pure ()) ground ⟨index, depth⟩ := rfl
  rw [unfolded, if_pos less, step_eq firm less]

/-- A walk goes past the token that is expected, where the reader reads it. -/
theorem expect_tracks (firm : ground.Firm) (kind : TokenKind) (expected : Expectation) :
    Tracks ground.tokens depth (index + 1)
      (Reader.expect ground.region kind expected (ground.tokens.drop index))
      (expect kind expected ground ⟨index, depth⟩) := by
  have unfolded : expect kind expected ground ⟨index, depth⟩
      = (next expected >>= fun token =>
          if token.kind = kind then pure token
          else do
            modify fun place => { place with index }
            throw (.within token.span (.unexpected expected token.kind token.lexeme)))
        ground ⟨index, depth⟩ := rfl
  rw [unfolded]
  rcases next_or_end ground.tokens index with ⟨none_eq, drop_eq⟩ | ⟨token, some_eq, drop_eq, less⟩
  · have failed : next expected ground ⟨index, depth⟩
        = (fail (.endsEarly expected) : Walk Token) ground ⟨index, depth⟩ := by
      rw [next, current_bind, none_eq]
    rw [fail_eq, drop_eq] at failed
    rw [bind_apply_failed failed, drop_eq]
    exact .failed
  · have found : next expected ground ⟨index, depth⟩ = .ok (.ok token, ⟨index + 1, depth⟩) := by
      rw [next, current_bind, some_eq]
      exact bind_apply_found (step_eq firm less)
    rw [bind_apply_found found, drop_eq, Reader.expect]
    split
    · exact .found (Nat.le_refl _) less
    · exact .failed

/-- The letter of a derivative operator is cut out of its lexeme. -/
theorem lexemeFrom_derivative {token : Token} (legible : token.Legible)
    (derivative : token.kind = .derivative) :
    lexemeFrom 3 token = .ok (Reader.derivativeLetter token) := by
  obtain ⟨letter, lexeme_eq⟩ := legible.derivative derivative
  have cuts : Guarded.cutFrom ['d', '/', 'd', letter] 3 = .ok [letter] :=
    Guarded.cutFrom_append ['d', '/', 'd'] [letter]
  rw [lexemeFrom, Reader.derivativeLetter, lexeme_eq, cuts]
  rfl

/-- The letter of a differential is cut out of its lexeme. -/
theorem lexemeFrom_differential {token : Token} (legible : token.Legible)
    (differential : token.kind = .differential) :
    lexemeFrom 1 token = .ok (Reader.differentialLetter token) := by
  obtain ⟨letter, lexeme_eq⟩ := legible.differential differential
  have cuts : Guarded.cutFrom ['d', letter] 1 = .ok [letter] :=
    Guarded.cutFrom_append ['d'] [letter]
  rw [lexemeFrom, Reader.differentialLetter, lexeme_eq, cuts]
  rfl

/-! ## Forms that nest -/

/-- A walk keeps track of a reader wherever as many tokens are behind it as there are levels around
it. -/
def Follows (ground : Ground) (depth : Nat) (reader : Reader α) (walk : Walk α) : Prop :=
  ∀ index, depth ≤ index → index ≤ ground.tokens.length →
    Tracks ground.tokens depth index (reader (ground.tokens.drop index))
      (walk ground ⟨index, depth⟩)

/-- The token that was expected is one of the ground. -/
theorem mem_of_expect {kind : TokenKind} {expected : Expectation} {token : Token} {place : Nat}
    (reads : Reader.expect ground.region kind expected (ground.tokens.drop index)
      = .ok (token, ground.tokens.drop place)) :
    token ∈ ground.tokens ∧ token.kind = kind := by
  obtain ⟨drop_eq, isKind⟩ := Reader.of_expect reads
  refine ⟨List.mem_of_mem_drop (i := index) ?_, isKind⟩
  rw [drop_eq]
  exact List.mem_cons_self

section Forms

variable {reader : Reader Expr} {walk : Walk Expr}

/-- A walk along parentheses keeps track of them. -/
theorem parenthesized_tracks (firm : ground.Firm) (follows : Follows ground depth reader walk)
    (le : depth ≤ index + 1) :
    Tracks ground.tokens depth (index + 1)
      (Reader.parenthesized ground.region reader (ground.tokens.drop index))
      (parenthesized walk ground ⟨index, depth⟩) := by
  unfold Reader.parenthesized parenthesized
  refine bind_tracks (expect_tracks firm _ _) fun left place _ first_le le_length => ?_
  refine bind_tracks (follows place (by omega) le_length)
    fun inner behind _ second_le le_length => ?_
  refine bind_tracks (expect_tracks firm _ _) fun right last _ third_le le_length => ?_
  exact .found (by omega) le_length

/-- A walk along a call keeps track of it. -/
theorem call_tracks (firm : ground.Firm) (follows : Follows ground depth reader walk)
    (le : depth ≤ index + 1) :
    Tracks ground.tokens depth index
      (Reader.call ground.region reader (ground.tokens.drop index))
      (call walk ground ⟨index, depth⟩) := by
  unfold Reader.call call
  refine bind_tracks (expect_tracks firm _ _) fun function place _ first_le le_length => ?_
  refine bind_tracks (parenthesized_tracks firm follows (by omega))
    fun inner last _ second_le le_length => ?_
  exact .found (by omega) le_length

/-- A walk along an expression in parentheses keeps track of it. -/
theorem paren_tracks (firm : ground.Firm) (follows : Follows ground depth reader walk)
    (le : depth ≤ index + 1) :
    Tracks ground.tokens depth index
      (Reader.paren ground.region reader (ground.tokens.drop index))
      (paren walk ground ⟨index, depth⟩) := by
  unfold Reader.paren paren
  refine bind_tracks (parenthesized_tracks firm follows le)
    fun inner last _ first_le le_length => ?_
  exact .found (by omega) le_length

/-- A walk along a derivative keeps track of it. -/
theorem derivative_tracks (firm : ground.Firm) (follows : Follows ground depth reader walk)
    (le : depth ≤ index + 1) :
    Tracks ground.tokens depth index
      (Reader.derivative ground.region reader (ground.tokens.drop index))
      (derivative walk ground ⟨index, depth⟩) := by
  unfold Reader.derivative derivative
  refine bind_tracks (expect_tracks firm _ _) fun token place reads first_le le_length => ?_
  obtain ⟨member, isDerivative⟩ := mem_of_expect reads
  refine bind_tracks (parenthesized_tracks firm follows (by omega))
    fun ⟨body, parens⟩ last _ second_le le_length => ?_
  dsimp only
  rw [guarded_bind (lexemeFrom_derivative (firm.legible token member) isDerivative)]
  exact .found (by omega) le_length

/-- A walk along an integral keeps track of it. -/
theorem integral_tracks (firm : ground.Firm) (follows : Follows ground depth reader walk)
    (le : depth ≤ index + 1) :
    Tracks ground.tokens depth index
      (Reader.integral ground.region reader (ground.tokens.drop index))
      (integral walk ground ⟨index, depth⟩) := by
  unfold Reader.integral integral
  refine bind_tracks (expect_tracks firm _ _) fun token place _ first_le le_length => ?_
  refine bind_tracks (paren_tracks firm follows (by omega))
    fun body last _ second_le le_length => ?_
  rw [current_bind]
  dsimp only
  rcases next_or_end ground.tokens last with ⟨none_eq, drop_eq⟩ | ⟨next, some_eq, drop_eq, less⟩
  · rw [none_eq, drop_eq]
    dsimp only
    rw [fail_eq, drop_eq]
    exact .failed
  · rw [some_eq, drop_eq]
    dsimp only
    split
    · rename_i isDifferential
      have legible := firm.legible next (List.mem_of_getElem? some_eq)
      rw [bind_apply_found (advance_eq firm less),
        guarded_bind (lexemeFrom_differential legible isDifferential)]
      exact .found (by omega) less
    · rw [fail_eq, drop_eq]
      exact .failed

end Forms

/-! ## Chains -/

/-- A walk sees the operator that a reader finds first. -/
theorem operator?_bind (level : Precedence) (goesOn : Option (BinaryOp × Span) → Walk β) :
    (operator? level >>= goesOn) ground ⟨index, depth⟩
      = goesOn ((Reader.operator? level (ground.tokens.drop index)).map
          fun (op, span, _) => (op, span)) ground ⟨index, depth⟩ := by
  have unfolded : (operator? level >>= goesOn) ground ⟨index, depth⟩
      = goesOn ((Reader.operator? level ground.tokens[index]?.toList).map
          fun (op, span, _) => (op, span)) ground ⟨index, depth⟩ := rfl
  rw [unfolded]
  congr 1
  rcases next_or_end ground.tokens index with ⟨none_eq, drop_eq⟩ | ⟨token, some_eq, drop_eq, -⟩
  · rw [none_eq, drop_eq]
    rfl
  · rw [some_eq, drop_eq]
    simp only [Option.toList_some, Reader.operator?]
    split_ifs <;> try rfl
    cases BinaryOp.ofSymbol? token.lexeme with
    | none => rfl
    | some op => dsimp only; split_ifs <;> rfl

/-- A walk sees the sign that a reader finds first. -/
theorem sign?_bind (goesOn : Option (UnaryOp × Span) → Walk β) :
    (sign? >>= goesOn) ground ⟨index, depth⟩
      = goesOn ((Reader.sign? (ground.tokens.drop index)).map fun (op, span, _) => (op, span))
          ground ⟨index, depth⟩ := by
  have unfolded : (sign? >>= goesOn) ground ⟨index, depth⟩
      = goesOn ((Reader.sign? ground.tokens[index]?.toList).map fun (op, span, _) => (op, span))
          ground ⟨index, depth⟩ := rfl
  rw [unfolded]
  congr 1
  rcases next_or_end ground.tokens index with ⟨none_eq, drop_eq⟩ | ⟨token, some_eq, drop_eq, -⟩
  · rw [none_eq, drop_eq]
    rfl
  · rw [some_eq, drop_eq]
    simp only [Option.toList_some, Reader.sign?]
    split_ifs
    · cases UnaryOp.ofSymbol? token.lexeme <;> rfl
    · rfl

/-- What follows the first token are the tokens from the next index on. -/
theorem following_eq {tokens following : List Token} {token : Token}
    (drop_eq : tokens.drop index = token :: following) :
    following = tokens.drop (index + 1) ∧ index < tokens.length := by
  rcases next_or_end tokens index with ⟨-, nil_eq⟩ | ⟨next, -, cons_eq, less⟩
  · rw [nil_eq] at drop_eq
    contradiction
  · rw [cons_eq] at drop_eq
    exact ⟨(List.cons.inj drop_eq).2.symm, less⟩

/-- A walk that goes on with a chain keeps track of it if its operands are. The height is not
measured before an operator is met, and there are more rounds than operators. -/
theorem chainAfter_tracks (firm : ground.Firm) {ceiling : Nat} {level : Precedence}
    {reader : Reader Expr} {walk : Walk Expr} (follows : Follows ground depth reader walk)
    (sound : Reader.Sound ceiling level.operand reader) {budget height : Nat} {left : Expr}
    {height? : Option Nat} (height_eq : height = height?.getD left.height)
    (low : height ≤ 2 ^ 31) (le : depth ≤ index) (le_length : index ≤ ground.tokens.length)
    (enough : ground.tokens.length ≤ index + budget) :
    Tracks ground.tokens depth index
      (Reader.chainAfter level reader budget left height (ground.tokens.drop index))
      (chainAfter level walk (budget + 1) left height? ground ⟨index, depth⟩) := by
  -- The operator takes a token, so that behind its operand one round less is enough; and the joined
  -- tree is low because a taller one is refused.
  induction budget generalizing index left height height? with
  | zero =>
    have nil_eq : ground.tokens.drop index = [] := List.drop_eq_nil_of_le (by omega)
    rw [chainAfter, operator?_bind, nil_eq]
    have last : Tracks ground.tokens depth index (.ok (left, ground.tokens.drop index))
        (.ok (.ok left, ⟨index, depth⟩)) := .found (Nat.le_refl _) le_length
    rwa [nil_eq] at last
  | succ budget hypothesis =>
    rw [chainAfter, operator?_bind, Reader.chainAfter]
    cases found : Reader.operator? level (ground.tokens.drop index) with
    | none => exact .found (Nat.le_refl _) le_length
    | some result =>
      obtain ⟨op, span, following⟩ := result
      obtain ⟨token, drop_eq, -, -, -⟩ := Reader.of_operator? found
      obtain ⟨rfl, less⟩ := following_eq drop_eq
      dsimp only [Option.map_some]
      rw [bind_apply_found (advance_eq firm less)]
      refine bind_tracks (follows (index + 1) (by omega) less)
        fun right next reads next_le le_length => ?_
      have rightLow := sound.height_le (by cases level <;> rfl) reads
      have short := firm.short
      rw [List.length_drop] at rightLow
      have added : Guarded.add 1 (max height right.height) = .ok (1 + max height right.height) :=
        Guarded.add_eq (by omega)
      dsimp only
      rw [guarded_bind (Expr.knownHeight_eq height_eq low),
        guarded_bind (Expr.guardedHeight_eq (by omega)), guarded_bind added]
      split
      · exact .failed
      · rename_i bounded
        have tallerLow : 1 + max height right.height ≤ 2 ^ 31 := by
          rw [maxHeight] at bounded
          omega
        have height_eq : 1 + max height right.height
            = (some (1 + max height right.height)).getD
              (Expr.binary op left right ⟨left.span.start, right.span.stop⟩).height := rfl
        have tracks := hypothesis height_eq tallerLow (by omega) le_length (by omega)
        exact tracks.mono (by omega)

/-- A walk along a chain keeps track of it if its operands are. -/
theorem chain_follows (firm : ground.Firm) {ceiling : Nat} {level : Precedence}
    {reader : Reader Expr} {walk : Walk Expr} (follows : Follows ground depth reader walk)
    (sound : Reader.Sound ceiling level.operand reader) :
    Follows ground depth (Reader.chain level reader) (chain level walk) := by
  intro index le le_length
  refine bind_tracks (follows index le le_length) fun first next reads next_le le_length => ?_
  have firstLow := sound.height_le (by cases level <;> rfl) reads
  have short := firm.short
  rw [List.length_drop] at firstLow
  have low : first.height ≤ 2 ^ 31 := by omega
  have height_eq : first.height = (none : Option Nat).getD first.height := rfl
  have enough : ground.tokens.length ≤ next + (ground.tokens.length - next) := by omega
  have tracks := chainAfter_tracks firm follows sound height_eq low (by omega) le_length enough
  dsimp only
  rw [read_bind, get_bind, List.length_drop]
  exact tracks.mono next_le

/-! ## Levels -/

/-- A walk that is not allowed another level fails. -/
theorem nested_eq_fail {walk : Walk α} (refuses : ground.region.ceiling ≤ depth) :
    nested walk ground ⟨index, depth⟩
      = .ok (.error (.within (Reader.here ground.region (ground.tokens.drop index))
          (.tooDeep ground.region.ceiling)), ⟨index, depth⟩) := by
  simp only [nested, if_pos refuses, fail_eq]

/-- A walk that is allowed another level keeps track there, and is as far in as before. -/
theorem nested_tracks {walk : Walk α} {read : Except Fault (α × List Token)} {least : Nat}
    (firm : ground.Firm) (allowed : depth < ground.region.ceiling)
    (le : depth ≤ ground.tokens.length)
    (tracks : Tracks ground.tokens (depth + 1) least read (walk ground ⟨index, depth + 1⟩)) :
    Tracks ground.tokens depth least read (nested walk ground ⟨index, depth⟩) := by
  have short := firm.short
  have entered : Guarded.add depth 1 = .ok (depth + 1) := Guarded.add_eq (by omega)
  have left : Guarded.subtract (depth + 1) 1 = .ok depth := Guarded.subtract_eq (by omega)
  generalize walked : walk ground ⟨index, depth + 1⟩ = result at tracks
  simp only [nested, if_neg (Nat.not_le.2 allowed), entered, Guarded.ok_bind, walked]
  cases tracks with
  | found least_le le_length =>
    simp only [Guarded.ok_bind, left]
    exact .found least_le le_length
  | failed =>
    simp only [Guarded.ok_bind, left]
    exact .failed

/-- The readers and the walks along what nests at a depth: there are none where the ceiling refuses
another level, and elsewhere the walks keep track of the readers. -/
inductive Levels (ground : Ground) (depth : Nat) :
    Option Reader.Deeper → Option Deeper → Prop where
  | none (refuses : ground.region.ceiling ≤ depth) : Levels ground depth none none
  | some {readers : Reader.Deeper} {walks : Deeper} (allowed : depth < ground.region.ceiling)
      (power : Follows ground (depth + 1) readers.power walks.power)
      (expression : Follows ground (depth + 1) readers.expression walks.expression) :
      Levels ground depth (some readers) (some walks)

section Grammar

variable {readers? : Option Reader.Deeper} {walks? : Option Deeper}

/-- A walk along a form that nests keeps track of it if a walk one level further in does. -/
theorem nest_tracks (firm : ground.Firm) (levels : Levels ground depth readers? walks?)
    (le : depth ≤ index) (le_length : index ≤ ground.tokens.length)
    {reader : Reader Expr → Reader Expr} {walk : Walk Expr → Walk Expr}
    (tracks : ∀ {nestedReader nestedWalk}, Follows ground (depth + 1) nestedReader nestedWalk →
      Tracks ground.tokens (depth + 1) index (reader nestedReader (ground.tokens.drop index))
        (walk nestedWalk ground ⟨index, depth + 1⟩)) :
    Tracks ground.tokens depth index
      (Reader.nest ground.region readers? reader (ground.tokens.drop index))
      (nest walks? (fun walks => walk walks.expression) ground ⟨index, depth⟩) := by
  cases levels with
  | none refuses =>
    rw [nest, nested_eq_fail refuses]
    exact .failed
  | some allowed _ expression =>
    exact nested_tracks firm allowed (Nat.le_trans le le_length) (tracks expression)

/-- A walk along what stands between operators keeps track of it. -/
theorem primary_follows (firm : ground.Firm) (levels : Levels ground depth readers? walks?) :
    Follows ground depth (Reader.primary ground.region readers?) (primary walks?) := by
  intro index le le_length
  rw [primary, current_bind]
  dsimp only
  rcases next_or_end ground.tokens index with ⟨none_eq, drop_eq⟩ | ⟨token, some_eq, drop_eq, less⟩
  · rw [none_eq, drop_eq]
    dsimp only
    rw [fail_eq, drop_eq]
    exact .failed
  · have legible := firm.legible token (List.mem_of_getElem? some_eq)
    have advances : advance ground ⟨index, depth⟩ = .ok (.ok (), ⟨index + 1, depth⟩) :=
      advance_eq firm less
    rw [some_eq, drop_eq, Reader.primary]
    dsimp only
    cases isKind : token.kind with
    | number =>
      dsimp only
      rw [bind_apply_found advances]
      cases Number.read? token.lexeme with
      | none => exact .failed
      | some value => exact .found (by omega) less
    | name =>
      dsimp only
      rw [bind_apply_found advances]
      exact .found (by omega) less
    | differential =>
      have start := legible.start
      dsimp only
      rw [bind_apply_found advances, guarded_bind (lexemeFrom_differential legible isKind),
        guarded_bind (Guarded.add_eq (by omega))]
      exact .found (by omega) less
    | function =>
      dsimp only
      rw [← drop_eq]
      exact nest_tracks firm levels le le_length fun follows => call_tracks firm follows (by omega)
    | opening =>
      dsimp only
      rw [← drop_eq]
      exact nest_tracks firm levels le le_length fun follows => paren_tracks firm follows (by omega)
    | derivative =>
      dsimp only
      rw [← drop_eq]
      exact nest_tracks firm levels le le_length fun follows =>
        derivative_tracks firm follows (by omega)
    | integralSign =>
      dsimp only
      rw [← drop_eq]
      exact nest_tracks firm levels le le_length fun follows =>
        integral_tracks firm follows (by omega)
    | operator | closing | comma => exact .failed

/-- A walk along a power, with a sign or without, keeps track of it. -/
theorem factor_follows (firm : ground.Firm) (levels : Levels ground depth readers? walks?)
    {ceiling : Nat} (sounder : Reader.Sounder ceiling readers?) :
    Follows ground depth (Reader.factor ground.region readers?) (factor walks?) := by
  intro index le le_length
  rw [factor, sign?_bind, Reader.factor]
  cases found : Reader.sign? (ground.tokens.drop index) with
  | none =>
    exact chain_follows firm (primary_follows firm levels) sounder.primary index le le_length
  | some result =>
    obtain ⟨op, span, following⟩ := result
    obtain ⟨token, drop_eq, -⟩ := Reader.of_sign? found
    obtain ⟨rfl, less⟩ := following_eq drop_eq
    dsimp only [Option.map_some]
    rw [bind_apply_found (advance_eq firm less)]
    cases levels with
    | none refuses =>
      rw [nest, bind_apply_failed (nested_eq_fail refuses)]
      exact .failed
    | some allowed power _ =>
      have nested := nested_tracks firm allowed (by omega) (power (index + 1) (by omega) less)
      refine bind_tracks nested fun operand next _ next_le le_length => ?_
      exact .found (by omega) le_length

/-- A walk along an expression keeps track of it. -/
theorem expression_follows (firm : ground.Firm) (levels : Levels ground depth readers? walks?)
    {ceiling : Nat} (sounder : Reader.Sounder ceiling readers?) :
    Follows ground depth (Reader.expression ground.region readers?) (expression walks?) :=
  chain_follows firm
    (chain_follows firm (factor_follows firm levels sounder) sounder.factor)
    (Reader.Sound.chain sounder.factor)

end Grammar

/-- Where as many levels are left as the ceiling allows, the walks keep track of the readers. -/
theorem levels_deeper (firm : ground.Firm) (left : Nat)
    (left_eq : depth + left = ground.region.ceiling) :
    Levels ground depth (Reader.deeper ground.region left) (deeper left) := by
  -- The levels are built from the innermost one outwards, where the depth is the ceiling.
  induction left generalizing depth with
  | zero => exact .none (by omega)
  | succ left hypothesis =>
    have levels : Levels ground (depth + 1) (Reader.deeper ground.region left) (deeper left) :=
      hypothesis (by omega)
    have sounder := Reader.sounder_deeper ground.region left
    exact .some (by omega)
      (chain_follows firm (primary_follows firm levels) sounder.primary)
      (expression_follows firm levels sounder)

/-- A walk finishes where no token is left. -/
theorem finish_eq (expr : Expr) (place : Place) :
    finish expr ground place
      = (if place.index = ground.tokens.length then pure expr else fail .trailing)
        ground place :=
  rfl

/-- On a firm ground a walk finds the expression, or the fault, that the readers find. -/
theorem run_whole (firm : ground.Firm) :
    whole.run ground = .ok (Reader.whole ground.region ground.tokens) := by
  have levels : Levels ground 0 (Reader.deeper ground.region ground.region.ceiling)
      (deeper ground.region.ceiling) := levels_deeper firm _ (Nat.zero_add _)
  have tracks := expression_follows firm levels
    (Reader.sounder_deeper ground.region ground.region.ceiling) 0 (Nat.le_refl _) (Nat.zero_le _)
  have unfolded : whole ground ⟨0, 0⟩
      = (expression (deeper ground.region.ceiling) >>= finish) ground ⟨0, 0⟩ := rfl
  rw [List.drop_zero] at tracks
  rw [run, unfolded, Reader.whole]
  generalize walked : expression (deeper ground.region.ceiling) ground ⟨0, 0⟩ = result at tracks
  generalize Reader.expression ground.region (Reader.deeper ground.region ground.region.ceiling)
    ground.tokens = read at tracks ⊢
  cases tracks with
  | @found expr next _ le_length =>
    rw [bind_apply_found walked, finish_eq]
    rcases next_or_end ground.tokens next with ⟨-, drop_eq⟩ | ⟨token, -, drop_eq, less⟩
    · have next_eq : next = ground.tokens.length :=
        Nat.le_antisymm le_length (List.drop_eq_nil_iff.1 drop_eq)
      rw [if_pos next_eq, drop_eq]
      rfl
    · rw [if_neg (Nat.ne_of_lt less), fail_eq, drop_eq]
      rfl
  | failed =>
    rw [bind_apply_failed walked]
    rfl

end Walk

end Workings
