import Workings.Proofs.Expr.Exactness
import Workings.Proofs.Token.Writing

/-!
# Trees that can be written

The text of a tree adds no parentheses. It is read back if the operators of the tree bind at least
as tightly as the places they stand in, which those of a tree that was read always do. The words of
the text are then derived to the tree again, and no other tree of this kind has the same text.
-/

namespace Workings

/-! ## How tightly trees bind -/

/-- How tightly the operators of a level bind, with signs between products and powers. -/
def Precedence.tightness : Precedence → Nat
  | .term => 0
  | .factor => 1
  | .power => 3

/-- How tightly the top of a tree binds. -/
def Expr.tightness : Expr → Nat
  | .binary op _ _ _ => op.precedence.tightness
  | .unary .. => 2
  | _ => 4

/-- How tightly a tree binds that is derived from a phrase, at least. -/
def Phrase.tightness : Phrase → Nat
  | .chain level | .after level _ => level.tightness
  | .factor => 2
  | .primary => 4

/-- The phrase of the trees that bind so tightly. -/
def Phrase.ofTightness : Nat → Phrase
  | 0 => .chain .term
  | 1 => .chain .factor
  | 2 => .factor
  | 3 => .chain .power
  | _ => .primary

/-- A letter by which derivatives and integrals are taken. -/
def IsLetter (name : String) : Prop :=
  ∃ char, Lexer.isLetter char ∧ name = String.singleton char

/-- A tree whose text is read back: operators bind as tightly as they have to, names can be read as
names, and the body of an integral stands between parentheses. -/
def Expr.Readable : Expr → Prop
  | .number value _ => Number.Unsigned value
  | .symbol name _ => isIdentifier name.toList ∧ Lexer.isDifferential name.toList = false
  | .paren inner _ => inner.Readable
  | .call function _ argument _ _ => (Function.named? function).isSome ∧ argument.Readable
  | .unary _ operand _ => Precedence.power.tightness ≤ operand.tightness ∧ operand.Readable
  | .binary op left right _ =>
    op.precedence.tightness ≤ left.tightness ∧ op.precedence.tightness < right.tightness
      ∧ left.Readable ∧ right.Readable
  | .derivative wrt body _ => IsLetter wrt ∧ body.Readable
  | .indefinite wrt body _ =>
    IsLetter wrt ∧ (∃ inner span, body = .paren inner span) ∧ body.Readable
  | .definite .. => False

/-- The numbers of a tree. -/
def Expr.literals : Expr → List Float
  | .number value _ => [value]
  | .symbol _ _ => []
  | .paren inner _ => inner.literals
  | .call _ _ argument _ _ => argument.literals
  | .unary _ operand _ => operand.literals
  | .binary _ left right _ => left.literals ++ right.literals
  | .derivative _ body _ => body.literals
  | .indefinite _ body _ => body.literals
  | .definite _ lower upper body _ => lower.literals ++ upper.literals ++ body.literals

/-- A tree whose numbers are finite. -/
def Expr.Finite (expr : Expr) : Prop :=
  ∀ value ∈ expr.literals, value.isFinite

/-- The numbers of the left side of an operator are finite. -/
theorem Expr.Finite.left {op : BinaryOp} {left right : Expr} {span : Span}
    (finite : (Expr.binary op left right span).Finite) : left.Finite :=
  fun value member => finite value (List.mem_append_left _ member)

/-- The numbers of the right side of an operator are finite. -/
theorem Expr.Finite.right {op : BinaryOp} {left right : Expr} {span : Span}
    (finite : (Expr.binary op left right span).Finite) : right.Finite :=
  fun value member => finite value (List.mem_append_right _ member)

/-- The words of the text of a tree. -/
def Expr.words : Expr → List Word
  | .number value _ => [.number (Number.text value)]
  | .symbol name _ => [.name name]
  | .paren inner _ => .opening :: (inner.words ++ [.closing])
  | .call function _ argument _ _ =>
    .function function :: .opening :: (argument.words ++ [.closing])
  | .unary op operand _ => .operator op.symbol :: operand.words
  | .binary op left right _ => left.words ++ .operator op.symbol :: right.words
  | .derivative wrt body _ => .derivative wrt :: .opening :: (body.words ++ [.closing])
  | .indefinite wrt body _ => .integralSign :: (body.words ++ [.differential wrt])
  | .definite _ _ _ body _ => body.words

/-! ## What is derived can be written -/

/-- A phrase has a tree that can be written and binds as tightly as the phrase. A chain has one if
the tree that it was begun with is one. -/
def Phrase.Admits : Phrase → Expr → Prop
  | .after level left, expr =>
    level.tightness ≤ left.tightness → left.Readable →
      level.tightness ≤ expr.tightness ∧ expr.Readable
  | phrase, expr => phrase.tightness ≤ expr.tightness ∧ expr.Readable

/-- The operands of a level bind more tightly than its operators. -/
theorem Precedence.tightness_lt_operand (level : Precedence) :
    level.tightness < level.operand.tightness := by
  cases level <;> decide

/-- The operands of a level are admitted if they can be written and bind tightly. -/
theorem Phrase.admits_operand {level : Precedence} {expr : Expr}
    (admits : level.operand.Admits expr) : level.tightness < expr.tightness ∧ expr.Readable := by
  have tightness_lt := level.tightness_lt_operand
  cases level with
  | _ => exact ⟨Nat.lt_of_lt_of_le tightness_lt admits.1, admits.2⟩

/-- A letter can be read as a name. -/
theorem IsLetter.readable {name : String} (letter : IsLetter name) (span : Span) :
    (Expr.symbol name span).Readable := by
  obtain ⟨char, isLetter, rfl⟩ := letter
  have starts : Lexer.startsName char := by simp [Lexer.startsName, isLetter]
  constructor
  · simpa [Expr.isIdentifier] using starts
  · simp [Lexer.isDifferential]

/-- The trees of words that can stand in a text can be written. -/
theorem Derives.admits {phrase : Phrase} {words : List Word} {expr : Expr}
    (derives : Derives phrase words expr) (lexical : ∀ word ∈ words, Lexer.Lexical word) :
    phrase.Admits expr := by
  induction derives with
  | chain _ _ operandHypothesis afterHypothesis =>
    rw [List.forall_mem_append] at lexical
    obtain ⟨tighter, readable⟩ := Phrase.admits_operand (operandHypothesis lexical.1)
    exact afterHypothesis lexical.2 tighter.le readable
  | done => exact fun tight readable => ⟨tight, readable⟩
  | joined binds _ _ operandHypothesis afterHypothesis =>
    rw [List.forall_mem_cons, List.forall_mem_append] at lexical
    obtain ⟨tighter, rightReadable⟩ := Phrase.admits_operand (operandHypothesis lexical.2.1)
    subst binds
    intro tight leftReadable
    exact afterHypothesis lexical.2.2 (Nat.le_refl _) ⟨tight, tighter, leftReadable, rightReadable⟩
  | signed _ hypothesis =>
    rw [List.forall_mem_cons] at lexical
    exact ⟨Nat.le_refl _, hypothesis lexical.2⟩
  | unsigned _ hypothesis =>
    obtain ⟨tight, readable⟩ := hypothesis lexical
    exact ⟨Nat.le_trans (by decide) tight, readable⟩
  | number reads =>
    obtain ⟨decimal, numeral⟩ := lexical _ List.mem_cons_self
    exact ⟨Nat.le_refl _, numeral.unsigned reads⟩
  | name => exact ⟨Nat.le_refl _, lexical _ List.mem_cons_self⟩
  | differential =>
    have letter : IsLetter _ := lexical _ List.mem_cons_self
    exact ⟨Nat.le_refl _, letter.readable _⟩
  | call _ hypothesis =>
    simp only [List.forall_mem_cons, List.forall_mem_append] at lexical
    obtain ⟨named, -, inside, -⟩ := lexical
    exact ⟨Nat.le_refl _, named, (hypothesis inside).2⟩
  | paren _ hypothesis =>
    simp only [List.forall_mem_cons, List.forall_mem_append] at lexical
    exact ⟨Nat.le_refl _, (hypothesis lexical.2.1).2⟩
  | derivative _ hypothesis =>
    simp only [List.forall_mem_cons, List.forall_mem_append] at lexical
    obtain ⟨letter, -, inside, -⟩ := lexical
    exact ⟨Nat.le_refl _, letter, (hypothesis inside).2⟩
  | integral _ hypothesis =>
    simp only [List.forall_mem_cons, List.forall_mem_append] at lexical
    obtain ⟨-, -, inside, -, letter, -⟩ := lexical
    exact ⟨Nat.le_refl _, letter, ⟨_, _, rfl⟩, (hypothesis inside).2⟩

/-! ## What can be written is derived -/

/-- A tree that binds one step more tightly than it has to is a phrase all the same. -/
theorem Derives.loosen_one {tight : Nat} {words : List Word} {expr : Expr}
    (derives : Derives (.ofTightness (tight + 1)) words expr) :
    Derives (.ofTightness tight) words expr := by
  match tight with
  | 0 => exact @Derives.alone .term _ _ derives
  | 1 => exact @Derives.alone .factor _ _ derives
  | 2 => exact .unsigned derives
  | 3 => exact @Derives.alone .power _ _ derives
  | _ + 4 => exact derives

/-- A tree that binds more tightly than it has to is a phrase all the same. -/
theorem Derives.loosen {tight loose : Nat} {words : List Word} {expr : Expr}
    (derives : Derives (.ofTightness tight) words expr) (le : loose ≤ tight) :
    Derives (.ofTightness loose) words expr := by
  induction le with
  | refl => exact derives
  | step _ hypothesis => exact hypothesis derives.loosen_one

/-- The trees that bind as tightly as the operators of a level are its chains. -/
theorem Phrase.ofTightness_level (level : Precedence) :
    Phrase.ofTightness level.tightness = .chain level := by
  cases level <;> rfl

/-- The trees that bind more tightly than the operators of a level are its operands. -/
theorem Phrase.ofTightness_operand (level : Precedence) :
    Phrase.ofTightness (level.tightness + 1) = level.operand := by
  cases level <;> rfl

/-- A begun chain may go on with one more operator and its operand. -/
theorem Derives.extend_after {op : BinaryOp} {left first right : Expr}
    {following rightWords : List Word}
    (after : Derives (.after op.precedence first) following left)
    (rightDerives : Derives op.precedence.operand rightWords right) :
    Derives (.after op.precedence first) (following ++ .operator op.symbol :: rightWords)
      (.binary op left right Expr.nowhere) := by
  generalize phrase : Phrase.after op.precedence first = begun at after
  induction after generalizing first with
  | done =>
    obtain ⟨rfl, rfl⟩ := Phrase.after.inj phrase
    have last := @Derives.joined _ op rightWords [] first right _ rfl rightDerives .done
    rwa [List.append_nil] at last
  | joined binds operand _ _ hypothesis =>
    obtain ⟨rfl, rfl⟩ := Phrase.after.inj phrase
    rw [List.cons_append, List.append_assoc]
    exact .joined binds operand (hypothesis rfl)
  | _ => cases phrase

/-- A chain may go on with one more operator and its operand. -/
theorem Derives.extend {op : BinaryOp} {leftWords rightWords : List Word} {left right : Expr}
    (leftDerives : Derives (.chain op.precedence) leftWords left)
    (rightDerives : Derives op.precedence.operand rightWords right) :
    Derives (.chain op.precedence) (leftWords ++ .operator op.symbol :: rightWords)
      (.binary op left right Expr.nowhere) := by
  cases leftDerives with
  | chain first after =>
    rw [List.append_assoc]
    exact .chain first (after.extend_after rightDerives)

/-- What stands between the parentheses of a tree is an expression. -/
theorem Derives.inside_paren {words : List Word} {expr : Expr}
    (derives : Derives .primary (.opening :: (words ++ [Word.closing]))
      (.paren expr Expr.nowhere)) :
    Derives .expression words expr := by
  generalize same : Word.opening :: (words ++ [Word.closing]) = whole at derives
  cases derives with
  | paren inner =>
    obtain rfl := List.append_cancel_right (List.cons.inj same).2
    exact inner

/-- A number of a tree that can be written is read back from its text. -/
theorem Expr.derives_number {value : Float} (unsigned : Number.Unsigned value)
    (finite : value.isFinite) :
    Derives .primary [.number (Number.text value)] (.number value nowhere) := by
  obtain ⟨parts, decoded⟩ := Number.isFinite_iff.1 finite
  exact .number (Number.read?_text decoded (unsigned parts decoded))

/-- The words of a tree that can be written are derived to it. -/
theorem Expr.derives_words {expr : Expr} (readable : expr.Readable) (finite : expr.Finite) :
    Derives (.ofTightness expr.tightness) expr.words expr.bare := by
  induction expr with
  | number value span => exact derives_number readable (finite value (by simp [literals]))
  | symbol name span => exact .name
  | paren inner span hypothesis =>
    exact .paren ((hypothesis readable finite).loosen (Nat.zero_le _))
  | call function _ argument _ _ hypothesis =>
    exact .call ((hypothesis readable.2 finite).loosen (Nat.zero_le _))
  | unary op operand span hypothesis =>
    exact .signed ((hypothesis readable.2 finite).loosen readable.1)
  | binary op left right span leftHypothesis rightHypothesis =>
    obtain ⟨tight, tighter, leftReadable, rightReadable⟩ := readable
    have leftDerives := (leftHypothesis leftReadable finite.left).loosen tight
    have rightDerives := (rightHypothesis rightReadable finite.right).loosen tighter
    rw [Phrase.ofTightness_level] at leftDerives
    rw [Phrase.ofTightness_operand] at rightDerives
    have chain := leftDerives.extend rightDerives
    rwa [← Phrase.ofTightness_level] at chain
  | derivative wrt body span hypothesis =>
    exact .derivative ((hypothesis readable.2 finite).loosen (Nat.zero_le _))
  | indefinite wrt body span hypothesis =>
    obtain ⟨-, ⟨inner, innerSpan, rfl⟩, bodyReadable⟩ := readable
    have inside := (hypothesis bodyReadable finite).inside_paren
    have words_eq : (Expr.indefinite wrt (.paren inner innerSpan) span).words
        = .integralSign :: .opening :: (inner.words ++ [Word.closing, Word.differential wrt]) := by
      simp [Expr.words]
    rw [words_eq]
    exact .integral inside
  | definite => contradiction

end Workings
