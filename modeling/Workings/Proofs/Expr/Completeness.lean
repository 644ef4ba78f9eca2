import Workings.Proofs.Expr.Soundness

/-!
# What the readers do not refuse

A reader takes the words of every phrase of the grammar off the beginning of a list of tokens, if
the tree of the phrase keeps to the ceiling and to the height of chains, and if what follows does
not go on with the phrase. So going on with a chain for as long as operators follow never misses a
tree.
-/

namespace Workings

/-- The kind of the tokens that are a word. -/
def Word.kind : Word → TokenKind
  | .number _ => .number
  | .name _ => .name
  | .operator _ => .operator
  | .function _ => .function
  | .opening => .opening
  | .closing => .closing
  | .comma => .comma
  | .integralSign => .integralSign
  | .derivative _ => .derivative
  | .differential _ => .differential

/-- The word of a token tells its kind. -/
theorem Token.kind_eq {token : Token} {word : Word} (isWord : token.word = word) :
    token.kind = word.kind := by
  subst isWord
  unfold Token.word
  split <;> assumption

/-! ## Parts of trees that keep to the bounds -/

namespace Expr.Within

variable {ceiling : Nat}

/-- The sides of an operator keep to the bounds. -/
theorem of_binary {op : BinaryOp} {left right : Expr} {span : Span}
    (within : (Expr.binary op left right span).Within ceiling) :
    (Expr.binary op left right span).height ≤ maxHeight ∧ left.Within ceiling
      ∧ right.Within ceiling := by
  obtain ⟨levels_le, low, leftBounded, rightBounded⟩ := within
  obtain ⟨left_le, right_le⟩ := Nat.max_le.1 levels_le
  exact ⟨low, ⟨left_le, leftBounded⟩, ⟨right_le, rightBounded⟩⟩

/-- The tree of a begun chain keeps to the bounds if that of the whole chain does. -/
theorem of_after {level : Precedence} {left expr : Expr} {words : List Word}
    (derives : Derives (.after level left) words expr) (within : expr.Within ceiling) :
    left.Within ceiling := by
  generalize phrase : Phrase.after level left = begun at derives
  induction derives generalizing left with
  | done =>
    cases phrase
    exact within
  | joined _ _ _ _ hypothesis =>
    cases phrase
    exact (hypothesis within rfl).of_binary.2.1
  | _ => cases phrase

end Expr.Within

namespace Reader

open Workings.Expr (nowhere Within)

/-! ## Single tokens -/

/-- A token of the expected kind is taken. -/
theorem expect_eq_ok {token : Token} {kind : TokenKind} (isKind : token.kind = kind)
    (region : Region) (expected : Expectation) (rest : List Token) :
    expect region kind expected (token :: rest) = .ok (token, rest) := by
  simp [expect, isKind]

/-- An operator of the level is found. -/
theorem operator?_eq_some {level : Precedence} {token : Token} {op : BinaryOp}
    {following : List Token} (word : token.word = .operator op.symbol)
    (binds : op.precedence = level) :
    operator? level (token :: following) = some (op, token.span, following) := by
  have isOperator : token.kind = .operator := Token.kind_eq word
  have symbol : token.lexeme = op.symbol := by simpa [Token.word, isOperator] using word
  simp [operator?, isOperator, BinaryOp.ofSymbol?_eq_some_iff.2 symbol, binds]

/-- Where a chain ends, no operator of its level follows. -/
theorem operator?_eq_none {level : Precedence} {rest : List Token}
    (ends : (Phrase.chain level).EndsBefore (rest.map Token.word)) :
    operator? level rest = none := by
  rcases found : operator? level rest with _ | ⟨op, span, following⟩
  · rfl
  · obtain ⟨token, rfl, word, binds, -⟩ := of_operator? found
    rw [List.map_cons, word] at ends
    have begun : (Phrase.after level default).EndsBefore _ := ends
    exact (Phrase.not_endsBefore binds begun).elim

/-- A sign is found. -/
theorem sign?_eq_some {token : Token} {op : UnaryOp} {following : List Token}
    (word : token.word = .operator op.symbol) :
    sign? (token :: following) = some (op, token.span, following) := by
  have isOperator : token.kind = .operator := Token.kind_eq word
  have symbol : token.lexeme = op.symbol := by simpa [Token.word, isOperator] using word
  simp [sign?, isOperator, UnaryOp.ofSymbol?_eq_some_iff.2 symbol]

/-- In front of a power, there is no sign. -/
theorem sign?_eq_none {tokens : List Token} {expr : Expr}
    (derives : Derives (.chain .power) (tokens.map Token.word) expr) (rest : List Token) :
    sign? (tokens ++ rest) = none := by
  obtain ⟨word, words, same, noOperator⟩ := derives.power_head
  obtain ⟨token, following, rfl, rfl, rfl⟩ := List.map_eq_cons_iff.1 same
  rcases found : sign? (token :: following ++ rest) with _ | ⟨op, span, behind⟩
  · rfl
  · obtain ⟨_, first, isOperator⟩ := of_sign? found
    obtain rfl := (List.cons.inj first).1
    exact absurd isOperator (noOperator _)

/-! ## Phrases -/

/-- Every phrase of the grammar that keeps to the bounds is taken off. -/
def Complete (ceiling : Nat) (phrase : Phrase) (reader : Reader Expr) : Prop :=
  ∀ {tokens rest : List Token} {tree : Expr}, Derives phrase (tokens.map Token.word) tree →
    tree.Within ceiling → phrase.EndsBefore (rest.map Token.word) →
    ∃ expr, reader (tokens ++ rest) = .ok (expr, rest) ∧ expr.bare = tree

/-- Going on with a chain is complete if its operands are read completely. -/
theorem Complete.chainAfter {ceiling : Nat} {level : Precedence} {operand : Reader Expr}
    (complete : Complete ceiling level.operand operand) {budget : Nat} {left tree : Expr}
    {tokens rest : List Token} (enough : tokens.length ≤ budget)
    (derives : Derives (.after level left.bare) (tokens.map Token.word) tree)
    (within : tree.Within ceiling) (ends : (Phrase.chain level).EndsBefore (rest.map Token.word)) :
    ∃ expr, Reader.chainAfter level operand budget left left.height (tokens ++ rest)
      = .ok (expr, rest) ∧ expr.bare = tree := by
  induction budget generalizing left tokens with
  | zero =>
    obtain rfl : tokens = [] := List.eq_nil_of_length_eq_zero (Nat.le_zero.1 enough)
    cases derives with
    | done => exact ⟨left, rfl, rfl⟩
  | succ budget hypothesis =>
    generalize same : tokens.map Token.word = words at derives
    cases derives with
    | done =>
      obtain rfl := List.map_eq_nil_iff.1 same
      refine ⟨left, ?_, rfl⟩
      simp only [Reader.chainAfter, List.nil_append, operator?_eq_none ends]
    | joined binds right after =>
      obtain ⟨token, behind, rfl, word, parts⟩ := List.map_eq_cons_iff.1 same
      obtain ⟨operands, following, rfl, rfl, rfl⟩ := List.map_eq_append_iff.1 parts
      obtain ⟨low, -, rightWithin⟩ := (Within.of_after after within).of_binary
      have rightEnds := after.endsBefore ends
      rw [← List.map_append] at rightEnds
      obtain ⟨operandExpr, reads, rfl⟩ := complete right rightWithin rightEnds
      simp only [Expr.height, Expr.height_bare] at low
      have notTaller : ¬ maxHeight < 1 + max left.height operandExpr.height := by omega
      have shorter : following.length ≤ budget := by
        simp only [List.length_cons, List.length_append] at enough
        omega
      obtain ⟨expr, goesOn, isTree⟩ := @hypothesis
        (.binary _ left operandExpr ⟨left.span.start, operandExpr.span.stop⟩) _ shorter after
      refine ⟨expr, ?_, isTree⟩
      simp only [Reader.chainAfter, List.cons_append, operator?_eq_some word binds,
        List.append_assoc, reads]
      rw [Expr.height, Nat.add_comm] at goesOn
      simpa [bind, Except.bind, notTaller] using goesOn

/-- A chain is read completely if its operands are. -/
theorem Complete.chain {ceiling : Nat} {level : Precedence} {operand : Reader Expr}
    (complete : Complete ceiling level.operand operand) :
    Complete ceiling (.chain level) (Reader.chain level operand) := by
  intro tokens rest tree derives within ends
  generalize same : tokens.map Token.word = words at derives
  cases derives with
  | chain first after =>
    obtain ⟨operands, following, rfl, rfl, rfl⟩ := List.map_eq_append_iff.1 same
    have firstEnds := after.endsBefore ends
    rw [← List.map_append] at firstEnds
    obtain ⟨firstExpr, reads, rfl⟩ := complete first (Within.of_after after within) firstEnds
    have enough : following.length ≤ (following ++ rest).length := by simp
    obtain ⟨expr, goesOn, isTree⟩ := complete.chainAfter enough after within ends
    refine ⟨expr, ?_, isTree⟩
    simp only [Reader.chain, List.append_assoc, reads]
    exact goesOn

/-- What stands between parentheses is read completely. -/
theorem Complete.parenthesized {ceiling : Nat} {nested : Reader Expr}
    (complete : Complete ceiling .expression nested) {opening closing : Token}
    {tokens : List Token} {tree : Expr} (isOpening : opening.word = .opening)
    (isClosing : closing.word = .closing)
    (derives : Derives .expression (tokens.map Token.word) tree) (within : tree.Within ceiling)
    (region : Region) (rest : List Token) :
    ∃ expr span, Reader.parenthesized region nested (opening :: (tokens ++ closing :: rest))
      = .ok ((expr, span), rest) ∧ expr.bare = tree := by
  have ends : Phrase.expression.EndsBefore ((closing :: rest).map Token.word) := by
    rw [List.map_cons, isClosing]
    exact Phrase.endsBefore_cons rfl _
  obtain ⟨expr, reads, isTree⟩ := complete derives within ends
  refine ⟨expr, ⟨opening.span.start, closing.span.stop⟩, ?_, isTree⟩
  have openingKind : opening.kind = .opening := Token.kind_eq isOpening
  have closingKind : closing.kind = .closing := Token.kind_eq isClosing
  simp only [Reader.parenthesized, expect_eq_ok openingKind, expect_eq_ok closingKind, reads,
    bind, Except.bind, pure, Except.pure]

section Nested

variable {ceiling : Nat} {nested : Reader Expr} {opening closing : Token} {tokens : List Token}
  {tree : Expr}

/-- A call is read completely, one level above its argument. -/
theorem Complete.call (complete : Complete ceiling .expression nested) {function : Token}
    {name : String} (word : function.word = .function name) (isOpening : opening.word = .opening)
    (isClosing : closing.word = .closing)
    (derives : Derives .expression (tokens.map Token.word) tree) (within : tree.Within ceiling)
    (region : Region) (rest : List Token) :
    ∃ expr, Reader.call region nested (function :: opening :: (tokens ++ closing :: rest))
      = .ok (expr, rest) ∧ expr.bare = .call name nowhere tree nowhere nowhere := by
  obtain ⟨argument, parens, reads, rfl⟩ :=
    complete.parenthesized isOpening isClosing derives within region rest
  have kind : function.kind = .function := Token.kind_eq word
  have lexeme : function.lexeme = name := by simpa [Token.word, kind] using word
  refine ⟨.call name function.span argument parens ⟨function.span.start, parens.stop⟩, ?_, rfl⟩
  simp only [Reader.call, expect_eq_ok kind, reads, lexeme, bind, Except.bind, pure, Except.pure]

/-- Parentheses are read completely, one level above what is between them. -/
theorem Complete.paren (complete : Complete ceiling .expression nested)
    (isOpening : opening.word = .opening) (isClosing : closing.word = .closing)
    (derives : Derives .expression (tokens.map Token.word) tree) (within : tree.Within ceiling)
    (region : Region) (rest : List Token) :
    ∃ expr, Reader.paren region nested (opening :: (tokens ++ closing :: rest)) = .ok (expr, rest)
      ∧ expr.bare = .paren tree nowhere := by
  obtain ⟨inner, parens, reads, rfl⟩ :=
    complete.parenthesized isOpening isClosing derives within region rest
  refine ⟨.paren inner parens, ?_, rfl⟩
  simp only [Reader.paren, reads, bind, Except.bind, pure, Except.pure]

/-- A derivative is read completely, one level above its body. -/
theorem Complete.derivative (complete : Complete ceiling .expression nested) {token : Token}
    {letter : String} (word : token.word = .derivative letter)
    (isOpening : opening.word = .opening) (isClosing : closing.word = .closing)
    (derives : Derives .expression (tokens.map Token.word) tree) (within : tree.Within ceiling)
    (region : Region) (rest : List Token) :
    ∃ expr, Reader.derivative region nested (token :: opening :: (tokens ++ closing :: rest))
      = .ok (expr, rest) ∧ expr.bare = .derivative letter tree nowhere := by
  obtain ⟨body, parens, reads, rfl⟩ :=
    complete.parenthesized isOpening isClosing derives within region rest
  have kind : token.kind = .derivative := Token.kind_eq word
  have letter_eq : derivativeLetter token = letter := by simpa [Token.word, kind] using word
  refine ⟨.derivative letter body ⟨token.span.start, parens.stop⟩, ?_, rfl⟩
  simp only [Reader.derivative, expect_eq_ok kind, reads, letter_eq, bind, Except.bind, pure,
    Except.pure]

/-- An integral is read completely, one level above what is between its parentheses. -/
theorem Complete.integral (complete : Complete ceiling .expression nested) {token next : Token}
    {letter : String} (word : token.word = .integralSign)
    (differential : next.word = .differential letter) (isOpening : opening.word = .opening)
    (isClosing : closing.word = .closing)
    (derives : Derives .expression (tokens.map Token.word) tree) (within : tree.Within ceiling)
    (region : Region) (rest : List Token) :
    ∃ expr, Reader.integral region nested
        (token :: opening :: (tokens ++ closing :: next :: rest)) = .ok (expr, rest)
      ∧ expr.bare = .indefinite letter (.paren tree nowhere) nowhere := by
  obtain ⟨body, reads, isBody⟩ :=
    complete.paren isOpening isClosing derives within region (next :: rest)
  have kind : token.kind = .integralSign := Token.kind_eq word
  have nextKind : next.kind = .differential := Token.kind_eq differential
  have letter_eq : differentialLetter next = letter := by
    simpa [Token.word, nextKind] using differential
  refine ⟨.indefinite letter body ⟨token.span.start, next.span.stop⟩, ?_, ?_⟩
  · simp only [Reader.integral, expect_eq_ok kind, reads, nextKind, letter_eq, bind, Except.bind,
      pure, Except.pure, if_true]
  · rw [Expr.bare, isBody]

end Nested

/-! ## Levels -/

/-- The readers for nested parts are there if a level is left, and are complete at one ceiling
less. -/
structure Completer (ceiling : Nat) (deeper : Option Deeper) : Prop where
  below : ∀ below, ceiling = below + 1 → ∃ readers, deeper = some readers
    ∧ Complete below (.chain .power) readers.power
    ∧ Complete below .expression readers.expression

variable {ceiling : Nat} {region : Region} {deeper : Option Deeper}

/-- Where something nests within the ceiling, there are complete readers for it. -/
theorem Completer.of_lt (completer : Completer ceiling deeper) {levels : Nat}
    (less : levels + 1 ≤ ceiling) : ∃ below readers, deeper = some readers ∧ levels ≤ below
      ∧ Complete below (.chain .power) readers.power
      ∧ Complete below .expression readers.expression := by
  cases ceiling with
  | zero => contradiction
  | succ below =>
    obtain ⟨readers, isSome, power, expression⟩ := completer.below below rfl
    exact ⟨below, readers, isSome, Nat.le_of_succ_le_succ less, power, expression⟩

/-- The tokens of parentheses, of what stands between them and of what follows. -/
theorem split_parenthesized {tokens : List Token} {words following : List Word}
    (same : tokens.map Token.word = .opening :: (words ++ .closing :: following)) :
    ∃ (opening : Token) (inside : List Token) (closing : Token) (behind : List Token),
      tokens = opening :: (inside ++ closing :: behind)
      ∧ opening.word = .opening ∧ inside.map Token.word = words ∧ closing.word = .closing
      ∧ behind.map Token.word = following := by
  obtain ⟨opening, others, rfl, isOpening, behindOpening⟩ := List.map_eq_cons_iff.1 same
  obtain ⟨inside, last, rfl, isInside, ending⟩ := List.map_eq_append_iff.1 behindOpening
  obtain ⟨closing, behind, rfl, isClosing, isBehind⟩ := List.map_eq_cons_iff.1 ending
  exact ⟨opening, inside, closing, behind, rfl, isOpening, isInside, isClosing, isBehind⟩

/-- What stands between operators is read completely. -/
theorem Completer.primary (completer : Completer ceiling deeper) :
    Complete ceiling .primary (Reader.primary region deeper) := by
  intro tokens rest tree derives within _
  generalize same : tokens.map Token.word = words at derives
  cases derives with
  | @number lexeme value reads =>
    obtain ⟨token, rfl, word⟩ := List.map_eq_singleton_iff.1 same
    have kind : token.kind = .number := Token.kind_eq word
    have lexeme_eq : token.lexeme = lexeme := by simpa [Token.word, kind] using word
    refine ⟨.number value token.span, ?_, rfl⟩
    simp [Reader.primary, kind, lexeme_eq, reads]
  | @name name =>
    obtain ⟨token, rfl, word⟩ := List.map_eq_singleton_iff.1 same
    have kind : token.kind = .name := Token.kind_eq word
    have lexeme_eq : token.lexeme = name := by simpa [Token.word, kind] using word
    refine ⟨.symbol name token.span, ?_, rfl⟩
    simp [Reader.primary, kind, lexeme_eq]
  | @differential letter =>
    obtain ⟨token, rfl, word⟩ := List.map_eq_singleton_iff.1 same
    have kind : token.kind = .differential := Token.kind_eq word
    have letter_eq : differentialLetter token = letter := by simpa [Token.word, kind] using word
    refine ⟨.symbol letter ⟨token.span.start + 1, token.span.stop⟩, ?_, rfl⟩
    simp [Reader.primary, kind, letter_eq]
  | call inner =>
    obtain ⟨function, others, rfl, word, behindName⟩ := List.map_eq_cons_iff.1 same
    obtain ⟨opening, inside, closing, behind, rfl, isOpening, rfl, isClosing, nothing⟩ :=
      split_parenthesized behindName
    obtain rfl := List.map_eq_nil_iff.1 nothing
    obtain ⟨below, readers, rfl, levels_le, -, complete⟩ := completer.of_lt within.levels_le
    have kind : function.kind = .function := Token.kind_eq word
    simp only [List.cons_append, List.append_assoc, List.nil_append, Reader.primary, kind,
      Reader.nest]
    exact complete.call word isOpening isClosing inner ⟨levels_le, within.bounded⟩ region rest
  | paren inner =>
    obtain ⟨opening, inside, closing, behind, rfl, isOpening, rfl, isClosing, nothing⟩ :=
      split_parenthesized same
    obtain rfl := List.map_eq_nil_iff.1 nothing
    obtain ⟨below, readers, rfl, levels_le, -, complete⟩ := completer.of_lt within.levels_le
    have kind : opening.kind = .opening := Token.kind_eq isOpening
    simp only [List.cons_append, List.append_assoc, List.nil_append, Reader.primary, kind,
      Reader.nest]
    exact complete.paren isOpening isClosing inner ⟨levels_le, within.bounded⟩ region rest
  | derivative inner =>
    obtain ⟨token, others, rfl, word, behindName⟩ := List.map_eq_cons_iff.1 same
    obtain ⟨opening, inside, closing, behind, rfl, isOpening, rfl, isClosing, nothing⟩ :=
      split_parenthesized behindName
    obtain rfl := List.map_eq_nil_iff.1 nothing
    obtain ⟨below, readers, rfl, levels_le, -, complete⟩ := completer.of_lt within.levels_le
    have kind : token.kind = .derivative := Token.kind_eq word
    simp only [List.cons_append, List.append_assoc, List.nil_append, Reader.primary, kind,
      Reader.nest]
    exact complete.derivative word isOpening isClosing inner ⟨levels_le, within.bounded⟩ region
      rest
  | integral inner =>
    obtain ⟨token, others, rfl, word, behindSign⟩ := List.map_eq_cons_iff.1 same
    obtain ⟨opening, inside, closing, behind, rfl, isOpening, rfl, isClosing, behindBody⟩ :=
      split_parenthesized behindSign
    obtain ⟨next, rfl, differential⟩ := List.map_eq_singleton_iff.1 behindBody
    obtain ⟨below, readers, rfl, levels_le, -, complete⟩ := completer.of_lt within.levels_le
    have kind : token.kind = .integralSign := Token.kind_eq word
    simp only [List.cons_append, List.append_assoc, List.nil_append, Reader.primary, kind,
      Reader.nest]
    exact complete.integral word differential isOpening isClosing inner
      ⟨levels_le, within.bounded⟩ region rest

/-- A power is read completely. -/
theorem Completer.power (completer : Completer ceiling deeper) :
    Complete ceiling (.chain .power) (Reader.power region deeper) :=
  @Complete.chain ceiling .power _ completer.primary

/-- A power is read completely with its sign, one level above it, and without one. -/
theorem Completer.factor (completer : Completer ceiling deeper) :
    Complete ceiling .factor (Reader.factor region deeper) := by
  intro tokens rest tree derives within ends
  generalize same : tokens.map Token.word = words at derives
  cases derives with
  | signed power =>
    obtain ⟨token, operands, rfl, word, rfl⟩ := List.map_eq_cons_iff.1 same
    obtain ⟨below, readers, rfl, levels_le, complete, -⟩ := completer.of_lt within.levels_le
    obtain ⟨operand, reads, rfl⟩ := complete power ⟨levels_le, within.bounded⟩ ends
    refine ⟨.unary _ operand ⟨token.span.start, operand.span.stop⟩, ?_, rfl⟩
    simp only [Reader.factor, List.cons_append, sign?_eq_some word, reads, bind, Except.bind, pure,
      Except.pure]
  | unsigned power =>
    subst same
    obtain ⟨expr, reads, isTree⟩ := completer.power power within ends
    refine ⟨expr, ?_, isTree⟩
    simp only [Reader.factor, sign?_eq_none power]
    exact reads

/-- An expression is read completely. -/
theorem Completer.expression (completer : Completer ceiling deeper) :
    Complete ceiling .expression (Reader.expression region deeper) :=
  @Complete.chain ceiling .term _ (@Complete.chain ceiling .factor _ completer.factor)

/-- The readers for as many levels as there are left are complete. -/
theorem completer_deeper (region : Region) (levels : Nat) :
    Completer levels (Reader.deeper region levels) := by
  induction levels with
  | zero =>
    constructor
    intro below isSucc
    contradiction
  | succ levels hypothesis =>
    constructor
    intro below isSucc
    obtain rfl := Nat.succ.inj isSucc
    exact ⟨_, rfl, hypothesis.power, hypothesis.expression⟩

/-- Every tree of all the tokens that keeps to the bounds is read. -/
theorem complete_whole {region : Region} {tokens : List Token} {tree : Expr}
    (derives : Derives .expression (tokens.map Token.word) tree)
    (within : tree.Within region.ceiling) :
    ∃ expr, whole region tokens = .ok expr ∧ expr.bare = tree := by
  have ends : Phrase.expression.EndsBefore (List.map Token.word []) := Phrase.endsBefore_nil _
  have completer := completer_deeper region region.ceiling
  obtain ⟨expr, reads, isTree⟩ :=
    @Completer.expression _ region _ completer _ _ _ derives within ends
  refine ⟨expr, ?_, isTree⟩
  rw [List.append_nil] at reads
  simp only [whole, reads, bind, Except.bind, pure, Except.pure]

/-- What goes on behind an expression, but with no operator, is refused. -/
theorem trailing_whole {region : Region} {tokens : List Token} {words following : List Word}
    {word : Word} {tree : Expr} (same : tokens.map Token.word = words ++ word :: following)
    (derives : Derives .expression words tree) (within : tree.Within region.ceiling)
    (noOperator : word.binaryOp? = none) :
    ∃ span, whole region tokens = .error (.within span .trailing) := by
  obtain ⟨front, rest, rfl, rfl, behind⟩ := List.map_eq_append_iff.1 same
  obtain ⟨next, others, rfl, isNext, -⟩ := List.map_eq_cons_iff.1 behind
  have ends : Phrase.expression.EndsBefore ((next :: others).map Token.word) := by
    rw [List.map_cons, isNext]
    exact Phrase.endsBefore_cons noOperator _
  have completer := completer_deeper region region.ceiling
  obtain ⟨expr, reads, -⟩ := @Completer.expression _ region _ completer _ _ _ derives within ends
  refine ⟨next.span, ?_⟩
  simp only [whole, reads, bind, Except.bind]

end Reader

end Workings
