import Workings.Expr.Reader

/-!
# The grammar of expressions

The grammar says which sequences of words are expressions and which tree each of them has. It knows
nothing of positions, and nothing of how a sequence is read: a phrase derives words, and the words
of a phrase are those of its parts one after the other. No sequence has two trees.
-/

namespace Workings

/-- What the grammar sees of a token. -/
inductive Word where
  | number (lexeme : String)
  | name (name : String)
  | operator (symbol : String)
  | function (name : String)
  | opening
  | closing
  | comma
  | integralSign
  | derivative (letter : String)
  | differential (letter : String)
  deriving Repr, DecidableEq

/-- The word that a token is. -/
def Token.word (token : Token) : Word :=
  match token.kind with
  | .number => .number token.lexeme
  | .name => .name token.lexeme
  | .operator => .operator token.lexeme
  | .function => .function token.lexeme
  | .opening => .opening
  | .closing => .closing
  | .comma => .comma
  | .integralSign => .integralSign
  | .derivative => .derivative (Reader.derivativeLetter token)
  | .differential => .differential (Reader.differentialLetter token)

namespace Expr

/-- The region of a tree that was not read from a text. -/
def nowhere : Span := ⟨0, 0⟩

/-- A tree without the regions it was read from. -/
def bare : Expr → Expr
  | .number value _ => .number value nowhere
  | .symbol name _ => .symbol name nowhere
  | .paren inner _ => .paren inner.bare nowhere
  | .call function _ argument _ _ => .call function nowhere argument.bare nowhere nowhere
  | .unary op operand _ => .unary op operand.bare nowhere
  | .binary op left right _ => .binary op left.bare right.bare nowhere
  | .derivative wrt body _ => .derivative wrt body.bare nowhere
  | .indefinite wrt body _ => .indefinite wrt body.bare nowhere
  | .definite wrt lower upper body _ => .definite wrt lower.bare upper.bare body.bare nowhere

/-- The greatest number of levels that nest on a path to a leaf. A chain of operators nests nothing,
and an integral and the parentheses of its body are one level. -/
def levels : Expr → Nat
  | .number _ _ | .symbol _ _ => 0
  | .paren inner _ => inner.levels + 1
  | .call _ _ argument _ _ => argument.levels + 1
  | .unary _ operand _ => operand.levels + 1
  | .binary _ left right _ => max left.levels right.levels
  | .derivative _ body _ => body.levels + 1
  | .indefinite _ (.paren inner _) _ => inner.levels + 1
  | .indefinite _ body _ => body.levels + 1
  | .definite _ lower upper body _ => max (max lower.levels upper.levels) body.levels + 1

/-- No operator between operands stands at the top of a tree that is too tall. -/
def Bounded : Expr → Prop
  | .number _ _ | .symbol _ _ => True
  | .paren inner _ => inner.Bounded
  | .call _ _ argument _ _ => argument.Bounded
  | .unary _ operand _ => operand.Bounded
  | .binary op left right span =>
    (binary op left right span).height ≤ maxHeight ∧ left.Bounded ∧ right.Bounded
  | .derivative _ body _ => body.Bounded
  | .indefinite _ body _ => body.Bounded
  | .definite _ lower upper body _ => lower.Bounded ∧ upper.Bounded ∧ body.Bounded

/-- A tree in which at most so many levels nest, and no chain of operators is too tall. -/
structure Within (ceiling : Nat) (expr : Expr) : Prop where
  levels_le : expr.levels ≤ ceiling
  bounded : expr.Bounded

/-- Regions do not count for the height of a tree. -/
@[simp] theorem height_bare (expr : Expr) : expr.bare.height = expr.height := by
  induction expr <;> simp_all [bare, height]

/-- Regions do not count for the levels of a tree. -/
@[simp] theorem levels_bare (expr : Expr) : expr.bare.levels = expr.levels := by
  induction expr with
  | indefinite wrt body span hypothesis =>
    cases body with
    | paren => exact congrArg (· + 1) (Nat.succ.inj hypothesis)
    | _ => exact congrArg (· + 1) hypothesis
  | _ => simp_all only [bare, levels]

/-- Regions do not count for the bounds of a tree. -/
@[simp] theorem bounded_bare (expr : Expr) : expr.bare.Bounded ↔ expr.Bounded := by
  induction expr <;> simp_all [bare, Bounded, height]

/-- Regions do not count for what a tree keeps to. -/
@[simp] theorem within_bare {ceiling : Nat} {expr : Expr} :
    expr.bare.Within ceiling ↔ expr.Within ceiling := by
  constructor
  · rintro ⟨levels_le, bounded⟩
    exact ⟨levels_bare expr ▸ levels_le, (bounded_bare expr).1 bounded⟩
  · rintro ⟨levels_le, bounded⟩
    exact ⟨(levels_bare expr).symm ▸ levels_le, (bounded_bare expr).2 bounded⟩

end Expr

/-- A kind of phrase. -/
inductive Phrase where
  /-- Operands joined by operators of one level. -/
  | chain (level : Precedence)
  /-- The operators and operands that follow the tree of a begun chain. -/
  | after (level : Precedence) (left : Expr)
  /-- A power, with a sign in front of it or without. -/
  | factor
  /-- What stands between operators. -/
  | primary

/-- An expression is a chain of sums. -/
abbrev Phrase.expression : Phrase := .chain .term

/-- What the operators of a level join. -/
def Precedence.operand : Precedence → Phrase
  | .term => .chain .factor
  | .factor => .factor
  | .power => .primary

open Workings.Expr (nowhere)

/-- The words of a phrase and its tree. -/
inductive Derives : Phrase → List Word → Expr → Prop where
  | chain {level : Precedence} {words following : List Word} {first expr : Expr}
      (operand : Derives level.operand words first)
      (rest : Derives (.after level first) following expr) :
      Derives (.chain level) (words ++ following) expr
  | done {level : Precedence} {left : Expr} : Derives (.after level left) [] left
  | joined {level : Precedence} {op : BinaryOp} {words following : List Word}
      {left right expr : Expr} (binds : op.precedence = level)
      (operand : Derives level.operand words right)
      (rest : Derives (.after level (.binary op left right nowhere)) following expr) :
      Derives (.after level left) (.operator op.symbol :: (words ++ following)) expr
  | signed {op : UnaryOp} {words : List Word} {operand : Expr}
      (power : Derives (.chain .power) words operand) :
      Derives .factor (.operator op.symbol :: words) (.unary op operand nowhere)
  | unsigned {words : List Word} {expr : Expr} (power : Derives (.chain .power) words expr) :
      Derives .factor words expr
  | number {lexeme : String} {value : Float} (reads : Number.read? lexeme = some value) :
      Derives .primary [.number lexeme] (.number value nowhere)
  | name {name : String} : Derives .primary [.name name] (.symbol name nowhere)
  | differential {letter : String} :
      Derives .primary [.differential letter] (.symbol letter nowhere)
  | call {function : String} {words : List Word} {argument : Expr}
      (inner : Derives .expression words argument) :
      Derives .primary (.function function :: .opening :: (words ++ [.closing]))
        (.call function nowhere argument nowhere nowhere)
  | paren {words : List Word} {expr : Expr} (inner : Derives .expression words expr) :
      Derives .primary (.opening :: (words ++ [.closing])) (.paren expr nowhere)
  | derivative {letter : String} {words : List Word} {body : Expr}
      (inner : Derives .expression words body) :
      Derives .primary (.derivative letter :: .opening :: (words ++ [.closing]))
        (.derivative letter body nowhere)
  | integral {letter : String} {words : List Word} {body : Expr}
      (inner : Derives .expression words body) :
      Derives .primary (.integralSign :: .opening :: (words ++ [.closing, .differential letter]))
        (.indefinite letter (.paren body nowhere) nowhere)

/-- An operand is a chain without operators. -/
theorem Derives.alone {level : Precedence} {words : List Word} {expr : Expr}
    (operand : Derives level.operand words expr) : Derives (.chain level) words expr := by
  have derives := Derives.chain operand .done
  rwa [List.append_nil] at derives

/-! ## Where phrases end -/

/-- The operator between operands that a word is. -/
def Word.binaryOp? : Word → Option BinaryOp
  | .operator symbol => BinaryOp.ofSymbol? symbol
  | _ => none

/-- How tightly an operator binds that may stand in a phrase outside parentheses. -/
def Phrase.rank : Phrase → Nat
  | .chain level | .after level _ => level.rank
  | .factor => 2
  | .primary => 3

/-- Words that do not go on with a phrase: they begin with no operator that could stand in it. -/
def Phrase.EndsBefore (phrase : Phrase) (words : List Word) : Prop :=
  ∀ word ∈ words.head?, ∀ op, word.binaryOp? = some op → op.precedence.rank < phrase.rank

/-- The operator between operands that the word of an operator is. -/
@[simp] theorem Word.binaryOp?_operator (op : BinaryOp) :
    (Word.operator op.symbol).binaryOp? = some op :=
  BinaryOp.ofSymbol?_eq_some_iff.2 rfl

/-- Different operators between operands are written differently. -/
theorem BinaryOp.symbol_injective {left right : BinaryOp} (same : left.symbol = right.symbol) :
    left = right :=
  Option.some.inj ((ofSymbol?_eq_some_iff.2 rfl).symm.trans (ofSymbol?_eq_some_iff.2 same))

/-- Different signs are written differently. -/
theorem UnaryOp.symbol_injective {left right : UnaryOp} (same : left.symbol = right.symbol) :
    left = right :=
  Option.some.inj ((ofSymbol?_eq_some_iff.2 rfl).symm.trans (ofSymbol?_eq_some_iff.2 same))

/-- The operands of a level bind more tightly than its operators. -/
theorem Precedence.rank_lt_operand (level : Precedence) : level.rank < level.operand.rank := by
  cases level <;> decide

/-- Every phrase ends before a word that is no operator. -/
theorem Phrase.endsBefore_cons {phrase : Phrase} {word : Word} (noOperator : word.binaryOp? = none)
    (words : List Word) : phrase.EndsBefore (word :: words) := by
  intro _ head op isOperator
  obtain rfl := Option.some.inj head
  rw [noOperator] at isOperator
  contradiction

/-- Every phrase ends at the end. -/
theorem Phrase.endsBefore_nil (phrase : Phrase) : phrase.EndsBefore [] := by
  intro _ head
  contradiction

/-- An operand ends where the operators of its level or the end of the chain follow. -/
theorem Derives.endsBefore {level : Precedence} {left expr : Expr} {following rest : List Word}
    (after : Derives (.after level left) following expr)
    (ends : (Phrase.chain level).EndsBefore rest) :
    level.operand.EndsBefore (following ++ rest) := by
  cases after with
  | done =>
    intro word head op isOperator
    exact Nat.lt_trans (ends word head op isOperator) level.rank_lt_operand
  | joined binds _ _ =>
    intro word head op isOperator
    obtain rfl := Option.some.inj head
    rw [Word.binaryOp?_operator] at isOperator
    obtain rfl := Option.some.inj isOperator
    rw [binds]
    exact level.rank_lt_operand

/-- The operators of a level may not follow a chain of that level. -/
theorem Phrase.not_endsBefore {level : Precedence} {left : Expr} {op : BinaryOp}
    {words : List Word} (binds : op.precedence = level)
    (ends : (Phrase.after level left).EndsBefore (.operator op.symbol :: words)) : False := by
  have less := ends _ rfl op (Word.binaryOp?_operator op)
  rw [binds] at less
  exact Nat.lt_irrefl _ less

/-- What stands between operators begins with no operator. -/
theorem Derives.primary_head {words : List Word} {expr : Expr}
    (derives : Derives .primary words expr) :
    ∃ word following, words = word :: following ∧ ∀ symbol, word ≠ .operator symbol := by
  cases derives <;> exact ⟨_, _, rfl, by simp⟩

/-- A power begins with no operator. -/
theorem Derives.power_head {words : List Word} {expr : Expr}
    (derives : Derives (.chain .power) words expr) :
    ∃ word following, words = word :: following ∧ ∀ symbol, word ≠ .operator symbol := by
  cases derives with
  | chain operand _ =>
    obtain ⟨word, following, rfl, noOperator⟩ := primary_head operand
    exact ⟨word, _, rfl, noOperator⟩

/-! ## No sequence has two trees -/

/-- Of two phrases of one kind at the beginning of a sequence, both of which end there, neither is
longer, and both have the same tree. -/
theorem Derives.prefix_unique {phrase : Phrase} {words words' rest rest' : List Word}
    {expr expr' : Expr} (derives : Derives phrase words expr)
    (derives' : Derives phrase words' expr') (same : words ++ rest = words' ++ rest')
    (ends : phrase.EndsBefore rest) (ends' : phrase.EndsBefore rest') :
    words = words' ∧ expr = expr' := by
  induction derives generalizing words' expr' rest rest' with
  | chain operand after operandHypothesis afterHypothesis =>
    cases derives' with
    | chain operand' after' =>
      rw [List.append_assoc, List.append_assoc] at same
      obtain ⟨rfl, rfl⟩ := operandHypothesis operand' same (after.endsBefore ends)
        (after'.endsBefore ends')
      obtain ⟨rfl, rfl⟩ := afterHypothesis after' (List.append_cancel_left same) ends ends'
      exact ⟨rfl, rfl⟩
  | done =>
    cases derives' with
    | done => exact ⟨rfl, rfl⟩
    | joined binds _ _ =>
      rw [List.nil_append] at same
      exact (Phrase.not_endsBefore binds (same ▸ ends)).elim
  | joined binds operand after operandHypothesis afterHypothesis =>
    cases derives' with
    | done =>
      rw [List.nil_append] at same
      exact (Phrase.not_endsBefore binds (same ▸ ends')).elim
    | joined binds' operand' after' =>
      simp only [List.cons_append, List.append_assoc, List.cons.injEq, Word.operator.injEq] at same
      obtain ⟨symbols, same⟩ := same
      obtain rfl := BinaryOp.symbol_injective symbols
      obtain ⟨rfl, rfl⟩ := operandHypothesis operand' same (after.endsBefore ends)
        (after'.endsBefore ends')
      obtain ⟨rfl, rfl⟩ := afterHypothesis after' (List.append_cancel_left same) ends ends'
      exact ⟨rfl, rfl⟩
  | signed power hypothesis =>
    cases derives' with
    | signed power' =>
      simp only [List.cons_append, List.cons.injEq, Word.operator.injEq] at same
      obtain ⟨symbols, same⟩ := same
      obtain rfl := UnaryOp.symbol_injective symbols
      obtain ⟨rfl, rfl⟩ := hypothesis power' same ends ends'
      exact ⟨rfl, rfl⟩
    | unsigned power' =>
      obtain ⟨word, following, rfl, noOperator⟩ := power'.power_head
      exact absurd (List.cons.inj same).1.symm (noOperator _)
  | unsigned power hypothesis =>
    cases derives' with
    | signed power' =>
      obtain ⟨word, following, rfl, noOperator⟩ := power.power_head
      exact absurd (List.cons.inj same).1 (noOperator _)
    | unsigned power' => exact hypothesis power' same ends ends'
  | number reads =>
    cases derives' with
    | number reads' => simp_all
    | _ => simp at same
  | name =>
    cases derives' with
    | name => simp_all
    | _ => simp at same
  | differential =>
    cases derives' with
    | differential => simp_all
    | _ => simp at same
  | call inner hypothesis =>
    cases derives' with
    | call inner' =>
      simp only [List.cons_append, List.append_assoc, List.cons.injEq, Word.function.injEq,
        true_and] at same
      obtain ⟨rfl, same⟩ := same
      obtain ⟨rfl, rfl⟩ := hypothesis inner' same (Phrase.endsBefore_cons rfl _)
        (Phrase.endsBefore_cons rfl _)
      exact ⟨rfl, rfl⟩
    | _ => simp at same
  | paren inner hypothesis =>
    cases derives' with
    | paren inner' =>
      simp only [List.cons_append, List.append_assoc, List.cons.injEq, true_and] at same
      obtain ⟨rfl, rfl⟩ := hypothesis inner' same (Phrase.endsBefore_cons rfl _)
        (Phrase.endsBefore_cons rfl _)
      exact ⟨rfl, rfl⟩
    | _ => simp at same
  | derivative inner hypothesis =>
    cases derives' with
    | derivative inner' =>
      simp only [List.cons_append, List.append_assoc, List.cons.injEq, Word.derivative.injEq,
        true_and] at same
      obtain ⟨rfl, same⟩ := same
      obtain ⟨rfl, rfl⟩ := hypothesis inner' same (Phrase.endsBefore_cons rfl _)
        (Phrase.endsBefore_cons rfl _)
      exact ⟨rfl, rfl⟩
    | _ => simp at same
  | integral inner hypothesis =>
    cases derives' with
    | integral inner' =>
      simp only [List.cons_append, List.append_assoc, List.cons.injEq, true_and] at same
      obtain ⟨rfl, rfl⟩ := hypothesis inner' same (Phrase.endsBefore_cons rfl _)
        (Phrase.endsBefore_cons rfl _)
      simp only [List.append_cancel_left_eq, List.cons.injEq, Word.differential.injEq,
        true_and] at same
      obtain ⟨rfl, -⟩ := same
      exact ⟨rfl, rfl⟩
    | _ => simp at same

/-- A sequence of words is a phrase in at most one way. -/
theorem Derives.unique {phrase : Phrase} {words : List Word} {left right : Expr}
    (leftDerives : Derives phrase words left) (rightDerives : Derives phrase words right) :
    left = right :=
  (leftDerives.prefix_unique rightDerives rfl phrase.endsBefore_nil phrase.endsBefore_nil).2

end Workings
