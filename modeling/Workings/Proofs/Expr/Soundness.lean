import Workings.Proofs.Expr.Grammar

/-!
# What the readers accept

A reader takes the words of a phrase off the beginning of a list of tokens, and its tree, regions
aside, is the one that the grammar gives them. The tree keeps to the ceiling of nested levels and to
the height that chains may have.
-/

namespace Workings.Reader

open Workings.Expr (nowhere Within)

/-- The parts of a computation that goes on with the result of another one. -/
theorem of_bind_eq_ok {Failure First Second : Type} {first : Except Failure First}
    {next : First → Except Failure Second} {result : Second}
    (succeeds : first >>= next = .ok result) :
    ∃ between, first = .ok between ∧ next between = .ok result := by
  cases first with
  | error failure => contradiction
  | ok between => exact ⟨between, rfl, succeeds⟩

/-! ## Single tokens -/

/-- The token that is expected stands first. -/
theorem of_expect {region : Region} {kind : TokenKind} {expected : Expectation}
    {tokens rest : List Token} {token : Token}
    (reads : expect region kind expected tokens = .ok (token, rest)) :
    tokens = token :: rest ∧ token.kind = kind := by
  cases tokens with
  | nil => contradiction
  | cons first following =>
    simp only [expect] at reads
    split at reads
    · obtain ⟨rfl, rfl⟩ := Prod.mk.inj (Except.ok.inj reads)
      exact ⟨rfl, by assumption⟩
    · contradiction

/-- The operator that is found stands first. -/
theorem of_operator? {level : Precedence} {tokens following : List Token} {op : BinaryOp}
    {span : Span} (found : operator? level tokens = some (op, span, following)) :
    ∃ token, tokens = token :: following ∧ token.word = .operator op.symbol
      ∧ op.precedence = level ∧ token.span = span := by
  cases tokens with
  | nil => contradiction
  | cons token rest =>
    simp only [operator?] at found
    split at found
    · rename_i isOperator
      split at found
      · rename_i op' symbol
        split at found
        · rename_i binds
          simp only [Option.some.injEq, Prod.mk.injEq] at found
          obtain ⟨rfl, rfl, rfl⟩ := found
          refine ⟨token, rfl, ?_, binds, rfl⟩
          rw [← BinaryOp.ofSymbol?_eq_some_iff.1 symbol]
          simp [Token.word, isOperator]
        · contradiction
      · contradiction
    · contradiction

/-- The sign that is found stands first. -/
theorem of_sign? {tokens following : List Token} {op : UnaryOp} {span : Span}
    (found : sign? tokens = some (op, span, following)) :
    ∃ token, tokens = token :: following ∧ token.word = .operator op.symbol := by
  cases tokens with
  | nil => contradiction
  | cons token rest =>
    simp only [sign?] at found
    split at found
    · rename_i isOperator
      obtain ⟨op', symbol, same⟩ := Option.map_eq_some_iff.1 found
      simp only [Prod.mk.injEq] at same
      obtain ⟨rfl, rfl, rfl⟩ := same
      refine ⟨token, rfl, ?_⟩
      rw [← UnaryOp.ofSymbol?_eq_some_iff.1 symbol]
      simp [Token.word, isOperator]
    · contradiction

/-! ## Phrases -/

/-- What a reader takes off is a phrase of the grammar with the tree that it answers. -/
def Sound (ceiling : Nat) (phrase : Phrase) (reader : Reader Expr) : Prop :=
  ∀ {tokens rest : List Token} {expr : Expr}, reader tokens = .ok (expr, rest) →
    ∃ read, tokens = read ++ rest ∧ Derives phrase (read.map Token.word) expr.bare
      ∧ expr.Within ceiling

/-- Going on with a chain is sound if its operands are read soundly. -/
theorem Sound.chainAfter {ceiling : Nat} {level : Precedence} {operand : Reader Expr}
    (sound : Sound ceiling level.operand operand) {budget : Nat} {left expr : Expr}
    {tokens rest : List Token} (within : left.Within ceiling)
    (reads : chainAfter level operand budget left left.height tokens = .ok (expr, rest)) :
    ∃ read, tokens = read ++ rest
      ∧ Derives (.after level left.bare) (read.map Token.word) expr.bare
      ∧ expr.Within ceiling := by
  induction budget generalizing left tokens with
  | zero =>
    obtain ⟨rfl, rfl⟩ := Prod.mk.inj (Except.ok.inj reads)
    exact ⟨[], rfl, .done, within⟩
  | succ budget hypothesis =>
    unfold Reader.chainAfter at reads
    split at reads
    · obtain ⟨rfl, rfl⟩ := Prod.mk.inj (Except.ok.inj reads)
      exact ⟨[], rfl, .done, within⟩
    · rename_i op span following found
      obtain ⟨token, rfl, word, binds, rfl⟩ := of_operator? found
      obtain ⟨⟨right, behind⟩, readsRight, goesOn⟩ := of_bind_eq_ok reads
      obtain ⟨read, rfl, derives, rightWithin⟩ := sound readsRight
      dsimp only at goesOn
      split at goesOn
      · contradiction
      · rename_i bounded
        have height_eq : 1 + max left.height right.height
            = (Expr.binary op left right ⟨left.span.start, right.span.stop⟩).height := by
          rw [Expr.height, Nat.add_comm]
        have joined : (Expr.binary op left right ⟨left.span.start, right.span.stop⟩).Within
            ceiling :=
          ⟨Nat.max_le.2 ⟨within.levels_le, rightWithin.levels_le⟩, by omega, within.bounded,
            rightWithin.bounded⟩
        rw [height_eq] at goesOn
        obtain ⟨read', rfl, after, exprWithin⟩ := hypothesis joined goesOn
        refine ⟨token :: (read ++ read'), by simp, ?_, exprWithin⟩
        rw [List.map_cons, List.map_append, word]
        exact .joined binds derives after

/-- A chain is read soundly if its operands are. -/
theorem Sound.chain {ceiling : Nat} {level : Precedence} {operand : Reader Expr}
    (sound : Sound ceiling level.operand operand) :
    Sound ceiling (.chain level) (Reader.chain level operand) := by
  intro tokens rest expr reads
  obtain ⟨⟨first, behind⟩, readsFirst, goesOn⟩ := of_bind_eq_ok reads
  obtain ⟨read, rfl, derives, within⟩ := sound readsFirst
  obtain ⟨read', rfl, after, exprWithin⟩ := sound.chainAfter within goesOn
  refine ⟨read ++ read', by simp, ?_, exprWithin⟩
  rw [List.map_append]
  exact .chain derives after

/-- What stands between parentheses is read soundly. -/
theorem Sound.parenthesized {ceiling : Nat} {region : Region} {expression : Reader Expr}
    (sound : Sound ceiling .expression expression) {tokens rest : List Token} {expr : Expr}
    {span : Span} (reads : parenthesized region expression tokens = .ok ((expr, span), rest)) :
    ∃ (opening : Token) (read : List Token) (closing : Token),
      tokens = opening :: (read ++ closing :: rest)
      ∧ opening.word = .opening ∧ closing.word = .closing
      ∧ Derives .expression (read.map Token.word) expr.bare ∧ expr.Within ceiling := by
  obtain ⟨⟨opening, behind⟩, readsOpening, readsBehind⟩ := of_bind_eq_ok reads
  obtain ⟨rfl, isOpening⟩ := of_expect readsOpening
  obtain ⟨⟨inner, behindInner⟩, readsInner, readsEnd⟩ := of_bind_eq_ok readsBehind
  obtain ⟨read, rfl, derives, within⟩ := sound readsInner
  obtain ⟨⟨closing, behindClosing⟩, readsClosing, answers⟩ := of_bind_eq_ok readsEnd
  obtain ⟨rfl, isClosing⟩ := of_expect readsClosing
  simp only [pure, Except.pure, Except.ok.injEq, Prod.mk.injEq] at answers
  obtain ⟨⟨rfl, -⟩, rfl⟩ := answers
  exact ⟨opening, read, closing, rfl, by simp [Token.word, isOpening],
    by simp [Token.word, isClosing], derives, within⟩

variable {ceiling : Nat} {region : Region} {nested : Reader Expr}

/-- A call is read soundly, one level above its argument. -/
theorem Sound.call (sound : Sound ceiling .expression nested) :
    Sound (ceiling + 1) .primary (Reader.call region nested) := by
  intro tokens rest expr reads
  obtain ⟨⟨function, behind⟩, readsFunction, readsBehind⟩ := of_bind_eq_ok reads
  obtain ⟨rfl, isFunction⟩ := of_expect readsFunction
  obtain ⟨⟨⟨argument, parens⟩, behindParens⟩, readsParens, answers⟩ := of_bind_eq_ok readsBehind
  obtain ⟨opening, read, closing, rfl, isOpening, isClosing, derives, within⟩ :=
    sound.parenthesized readsParens
  simp only [pure, Except.pure, Except.ok.injEq, Prod.mk.injEq] at answers
  obtain ⟨rfl, rfl⟩ := answers
  refine ⟨function :: opening :: (read ++ [closing]), by simp, ?_,
    ⟨Nat.succ_le_succ within.levels_le, within.bounded⟩⟩
  have word : function.word = .function function.lexeme := by simp [Token.word, isFunction]
  simp only [List.map_cons, List.map_append, List.map_nil, word, isOpening, isClosing]
  exact .call derives

/-- Parentheses are read soundly, one level above what is between them. -/
theorem Sound.paren (sound : Sound ceiling .expression nested) :
    Sound (ceiling + 1) .primary (Reader.paren region nested) := by
  intro tokens rest expr reads
  obtain ⟨⟨⟨inner, parens⟩, behindParens⟩, readsParens, answers⟩ := of_bind_eq_ok reads
  obtain ⟨opening, read, closing, rfl, isOpening, isClosing, derives, within⟩ :=
    sound.parenthesized readsParens
  simp only [pure, Except.pure, Except.ok.injEq, Prod.mk.injEq] at answers
  obtain ⟨rfl, rfl⟩ := answers
  refine ⟨opening :: (read ++ [closing]), by simp, ?_,
    ⟨Nat.succ_le_succ within.levels_le, within.bounded⟩⟩
  simp only [List.map_cons, List.map_append, List.map_nil, isOpening, isClosing]
  exact .paren derives

/-- A derivative is read soundly, one level above its body. -/
theorem Sound.derivative (sound : Sound ceiling .expression nested) :
    Sound (ceiling + 1) .primary (Reader.derivative region nested) := by
  intro tokens rest expr reads
  obtain ⟨⟨token, behind⟩, readsToken, readsBehind⟩ := of_bind_eq_ok reads
  obtain ⟨rfl, isDerivative⟩ := of_expect readsToken
  obtain ⟨⟨⟨body, parens⟩, behindParens⟩, readsParens, answers⟩ := of_bind_eq_ok readsBehind
  obtain ⟨opening, read, closing, rfl, isOpening, isClosing, derives, within⟩ :=
    sound.parenthesized readsParens
  simp only [pure, Except.pure, Except.ok.injEq, Prod.mk.injEq] at answers
  obtain ⟨rfl, rfl⟩ := answers
  refine ⟨token :: opening :: (read ++ [closing]), by simp, ?_,
    ⟨Nat.succ_le_succ within.levels_le, within.bounded⟩⟩
  have word : token.word = .derivative (derivativeLetter token) := by
    simp [Token.word, isDerivative]
  simp only [List.map_cons, List.map_append, List.map_nil, word, isOpening, isClosing]
  exact .derivative derives

/-- An integral is read soundly, one level above what is between its parentheses. -/
theorem Sound.integral (sound : Sound ceiling .expression nested) :
    Sound (ceiling + 1) .primary (Reader.integral region nested) := by
  intro tokens rest expr reads
  obtain ⟨⟨token, behind⟩, readsToken, readsBehind⟩ := of_bind_eq_ok reads
  obtain ⟨rfl, isIntegral⟩ := of_expect readsToken
  obtain ⟨⟨body, behindBody⟩, readsBody, readsEnd⟩ := of_bind_eq_ok readsBehind
  obtain ⟨⟨⟨inner, parens⟩, behindParens⟩, readsParens, answersBody⟩ := of_bind_eq_ok readsBody
  obtain ⟨opening, read, closing, rfl, isOpening, isClosing, derives, within⟩ :=
    sound.parenthesized readsParens
  simp only [pure, Except.pure, Except.ok.injEq, Prod.mk.injEq] at answersBody
  obtain ⟨rfl, rfl⟩ := answersBody
  dsimp only at readsEnd
  split at readsEnd
  · rename_i next behindNext
    split at readsEnd
    · rename_i isDifferential
      simp only [pure, Except.pure, Except.ok.injEq, Prod.mk.injEq] at readsEnd
      obtain ⟨rfl, rfl⟩ := readsEnd
      refine ⟨token :: opening :: (read ++ [closing, next]), by simp, ?_,
        ⟨Nat.succ_le_succ within.levels_le, within.bounded⟩⟩
      have word : token.word = .integralSign := by simp [Token.word, isIntegral]
      have differential : next.word = .differential (differentialLetter next) := by
        simp [Token.word, isDifferential]
      simp only [List.map_cons, List.map_append, List.map_nil, word, isOpening, isClosing,
        differential]
      exact .integral derives
    · contradiction
  · contradiction

/-! ## Levels -/

/-- The readers for nested parts are sound at one ceiling less. -/
structure Sounder (ceiling : Nat) (deeper : Option Deeper) : Prop where
  below : ∀ readers, deeper = some readers → ∃ below, ceiling = below + 1
    ∧ Sound below (.chain .power) readers.power ∧ Sound below .expression readers.expression

/-- A form that nests is read soundly if its reader is, one level above its parts. -/
theorem Sounder.nest {deeper : Option Deeper} {reader : Reader Expr → Reader Expr}
    (sounder : Sounder ceiling deeper)
    (sound : ∀ {below inner}, Sound below .expression inner →
      Sound (below + 1) .primary (reader inner)) :
    Sound ceiling .primary (Reader.nest region deeper reader) := by
  intro tokens rest expr reads
  cases deeper with
  | none => contradiction
  | some readers =>
    obtain ⟨below, rfl, -, expression⟩ := sounder.below _ rfl
    exact sound expression reads

/-- What stands between operators is read soundly. -/
theorem Sounder.primary {deeper : Option Deeper} (sounder : Sounder ceiling deeper) :
    Sound ceiling .primary (Reader.primary region deeper) := by
  intro tokens rest expr reads
  cases tokens with
  | nil => contradiction
  | cons token following =>
    simp only [Reader.primary] at reads
    split at reads
    · rename_i kind
      split at reads
      · rename_i value read
        obtain ⟨rfl, rfl⟩ := Prod.mk.inj (Except.ok.inj reads)
        refine ⟨[token], rfl, ?_, ⟨Nat.zero_le _, trivial⟩⟩
        have word : token.word = .number token.lexeme := by simp [Token.word, kind]
        rw [List.map_singleton, word]
        exact .number read
      · contradiction
    · rename_i kind
      obtain ⟨rfl, rfl⟩ := Prod.mk.inj (Except.ok.inj reads)
      refine ⟨[token], rfl, ?_, ⟨Nat.zero_le _, trivial⟩⟩
      have word : token.word = .name token.lexeme := by simp [Token.word, kind]
      rw [List.map_singleton, word]
      exact .name
    · rename_i kind
      obtain ⟨rfl, rfl⟩ := Prod.mk.inj (Except.ok.inj reads)
      refine ⟨[token], rfl, ?_, ⟨Nat.zero_le _, trivial⟩⟩
      have word : token.word = .differential (differentialLetter token) := by
        simp [Token.word, kind]
      rw [List.map_singleton, word]
      exact .differential
    · exact sounder.nest Sound.call reads
    · exact sounder.nest Sound.paren reads
    · exact sounder.nest Sound.derivative reads
    · exact sounder.nest Sound.integral reads
    all_goals contradiction

/-- A power is read soundly. -/
theorem Sounder.power {deeper : Option Deeper} (sounder : Sounder ceiling deeper) :
    Sound ceiling (.chain .power) (Reader.power region deeper) :=
  Sound.chain sounder.primary

/-- A power is read soundly with its sign, one level above it, and without one. -/
theorem Sounder.factor {deeper : Option Deeper} (sounder : Sounder ceiling deeper) :
    Sound ceiling .factor (Reader.factor region deeper) := by
  intro tokens rest expr reads
  simp only [Reader.factor] at reads
  split at reads
  · obtain ⟨read, same, derives, within⟩ := sounder.power reads
    exact ⟨read, same, .unsigned derives, within⟩
  · rename_i op span following found
    obtain ⟨token, rfl, word⟩ := of_sign? found
    split at reads
    · contradiction
    · rename_i readers
      obtain ⟨below, rfl, power, -⟩ := sounder.below _ rfl
      obtain ⟨⟨operand, behind⟩, readsOperand, answers⟩ := of_bind_eq_ok reads
      obtain ⟨read, rfl, derives, within⟩ := power readsOperand
      simp only [pure, Except.pure, Except.ok.injEq, Prod.mk.injEq] at answers
      obtain ⟨rfl, rfl⟩ := answers
      refine ⟨token :: read, rfl, ?_, ⟨Nat.succ_le_succ within.levels_le, within.bounded⟩⟩
      rw [List.map_cons, word]
      exact .signed derives

/-- An expression is read soundly. -/
theorem Sounder.expression {deeper : Option Deeper} (sounder : Sounder ceiling deeper) :
    Sound ceiling .expression (Reader.expression region deeper) :=
  Sound.chain (Sound.chain sounder.factor)

/-- The readers for as many levels as there are left are sound. -/
theorem sounder_deeper (region : Region) (levels : Nat) :
    Sounder levels (Reader.deeper region levels) := by
  induction levels with
  | zero =>
    constructor
    intro readers isSome
    contradiction
  | succ levels hypothesis =>
    constructor
    intro readers isSome
    obtain rfl := Option.some.inj isSome
    exact ⟨levels, rfl, hypothesis.power, hypothesis.expression⟩

/-- All the tokens of an expression that is read are a phrase of the grammar with its tree. -/
theorem sound_whole {region : Region} {tokens : List Token} {expr : Expr}
    (reads : whole region tokens = .ok expr) :
    Derives .expression (tokens.map Token.word) expr.bare ∧ expr.Within region.ceiling := by
  obtain ⟨⟨inner, rest⟩, readsInner, answers⟩ := of_bind_eq_ok reads
  obtain ⟨read, rfl, derives, within⟩ :=
    (sounder_deeper region region.ceiling).expression readsInner
  dsimp only at answers
  split at answers
  · obtain rfl := Except.ok.inj answers
    rw [List.append_nil]
    exact ⟨derives, within⟩
  · contradiction

end Workings.Reader
