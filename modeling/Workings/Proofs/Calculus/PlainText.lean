import Mathlib.Data.List.Infix
import Workings.Proofs.Calculus.Spelling
import Workings.Proofs.Expr.LiteralForms

/-!
# Polynomials without blanks

The rules of calculus look at the text of an expression without blanks. Of a polynomial in a letter
it still has the words, so it is read as the same expression, and parentheses match in it.
-/

namespace Workings

namespace Expr

open Lexer (isLetter Scans)
open Calculus (Spells EndsWord spells_digits spells_letter)

/-! ## Trees -/

/-- The trees that the grammar makes of polynomial expressions in a letter. -/
inductive Algebraic (letter : Char) : Expr → Prop where
  | number {value : Float} {count : Nat} (exactly : Number.Exactly value count)
      (small : count < 2 ^ 53) : Algebraic letter (.number value nowhere)
  | name : Algebraic letter (.symbol (String.singleton letter) nowhere)
  | paren {inner : Expr} (inside : Algebraic letter inner) :
      Algebraic letter (.paren inner nowhere)
  | signed {op : UnaryOp} {operand : Expr}
      (tight : Precedence.power.tightness ≤ operand.tightness)
      (inside : Algebraic letter operand) : Algebraic letter (.unary op operand nowhere)
  | joined {op : BinaryOp} {left right : Expr} (noSlash : op ≠ .dividedBy) (noModulo : op ≠ .modulo)
      (exponent : op = .power → ∃ count < 2 ^ 53, right.Counts count)
      (tight : op.precedence.tightness ≤ left.tightness)
      (tighter : op.precedence.tightness < right.tightness) (leftInside : Algebraic letter left)
      (rightInside : Algebraic letter right) : Algebraic letter (.binary op left right nowhere)

variable {letter : Char} {expr : Expr}

/-- A small whole number in parentheses or without is a polynomial expression. -/
theorem Counts.isPolynomial {count : Nat} (counts : expr.Counts count) (small : count < 2 ^ 53)
    (wrt : String) : expr.IsPolynomial wrt := by
  induction expr with
  | number => exact ⟨count, small, counts⟩
  | paren _ _ hypothesis => exact hypothesis counts
  | _ => contradiction

/-- The trees that can be written and are polynomial expressions. -/
theorem algebraic_of_readable (readable : expr.Readable)
    (polynomial : expr.IsPolynomial (String.singleton letter)) (bare_eq : expr.bare = expr) :
    Algebraic letter expr := by
  induction expr with
  | number value span =>
    obtain ⟨count, small, exactly⟩ := polynomial
    rw [← bare_eq]
    exact .number exactly small
  | symbol name span =>
    obtain rfl : name = String.singleton letter := polynomial
    rw [← bare_eq]
    exact .name
  | paren inner span hypothesis =>
    obtain ⟨inner_eq, rfl⟩ := Expr.paren.inj bare_eq
    exact .paren (hypothesis readable polynomial inner_eq)
  | unary op operand span hypothesis =>
    obtain ⟨-, operand_eq, rfl⟩ := Expr.unary.inj bare_eq
    exact .signed readable.1 (hypothesis readable.2 polynomial operand_eq)
  | binary op left right span leftHypothesis rightHypothesis =>
    obtain ⟨-, left_eq, right_eq, rfl⟩ := Expr.binary.inj bare_eq
    obtain ⟨tight, tighter, leftReadable, rightReadable⟩ := readable
    cases op with
    | power =>
      obtain ⟨base, count, small, counts⟩ := polynomial
      exact .joined (by decide) (by decide) (fun _ => ⟨count, small, counts⟩) tight tighter
        (leftHypothesis leftReadable base left_eq)
        (rightHypothesis rightReadable (counts.isPolynomial small _) right_eq)
    | plus | minus | times =>
      exact .joined (by decide) (by decide) (by simp) tight tighter
        (leftHypothesis leftReadable polynomial.1 left_eq)
        (rightHypothesis rightReadable polynomial.2 right_eq)
    | dividedBy | modulo => contradiction
  | _ => contradiction

/-- What the grammar reads as a polynomial expression. -/
theorem Reads.algebraic {chars : List Char} (reads : Reads chars expr)
    (polynomial : expr.IsPolynomial (String.singleton letter)) : Algebraic letter expr :=
  algebraic_of_readable reads.readable polynomial reads.bare_eq

namespace Algebraic

/-- Such trees are polynomial expressions. -/
theorem isPolynomial (algebraic : Algebraic letter expr) :
    expr.IsPolynomial (String.singleton letter) := by
  induction algebraic with
  | number exactly small => exact ⟨_, small, exactly⟩
  | name => rfl
  | paren _ hypothesis | signed _ _ hypothesis => exact hypothesis
  | @joined op _ _ noSlash noModulo exponent _ _ _ _ leftHypothesis rightHypothesis =>
    cases op with
    | power => exact ⟨leftHypothesis, exponent rfl⟩
    | plus | minus | times => exact ⟨leftHypothesis, rightHypothesis⟩
    | dividedBy | modulo => contradiction

/-- Such trees have no regions. -/
theorem bare_eq (algebraic : Algebraic letter expr) : expr.bare = expr := by
  induction algebraic with
  | number | name => rfl
  | paren _ hypothesis | signed _ _ hypothesis => rw [bare, hypothesis]
  | joined _ _ _ _ _ _ _ leftHypothesis rightHypothesis =>
    rw [bare, leftHypothesis, rightHypothesis]

/-- Such trees can be written. -/
theorem readable (algebraic : Algebraic letter expr) (isLetter : isLetter letter) :
    expr.Readable := by
  induction algebraic with
  | number exactly _ =>
    obtain ⟨parts, decoded, unsigned, -⟩ := exactly
    intro parts' decoded'
    obtain rfl := Option.some.inj (decoded.symm.trans decoded')
    exact unsigned
  | name => exact IsLetter.readable ⟨letter, isLetter, rfl⟩ nowhere
  | paren _ hypothesis => exact hypothesis
  | signed tight _ hypothesis => exact ⟨tight, hypothesis⟩
  | joined _ _ _ tight tighter _ _ leftHypothesis rightHypothesis =>
    exact ⟨tight, tighter, leftHypothesis, rightHypothesis⟩

/-- Such trees denote polynomials. -/
theorem exists_denotes (R : Type) [CommRing R] (algebraic : Algebraic letter expr) :
    ∃ value : Polynomial R, expr.Denotes (String.singleton letter) value :=
  algebraic.isPolynomial.exists_denotes R

end Algebraic

/-! ## Texts -/

/-- The text of an expression without blanks. -/
def plain (expr : Expr) : List Char :=
  Text.compact expr.text.toList

/-- Blanks are left out of the parts of a text. -/
theorem compact_append (left right : List Char) :
    Text.compact (left ++ right) = Text.compact left ++ Text.compact right :=
  List.filter_append ..

/-- Nothing is left out of a text without blanks. -/
theorem compact_eq_self {chars : List Char} (noBlank : ∀ char ∈ chars, Text.isBlank char = false) :
    Text.compact chars = chars :=
  List.filter_eq_self.2 fun char member => by rw [noBlank char member]; rfl

/-- Digits are no blanks. -/
theorem isBlank_of_isDigit {char : Char} (digit : char.isDigit) : Text.isBlank char = false := by
  rw [← Lexer.isDigit_eq] at digit
  exact Lexer.not_isBlank_of_continuesName (by simp [Lexer.continuesName, digit])

/-- A name of one letter is written by the letter. -/
theorem plain_symbol (isLetter : isLetter letter) (span : Span) :
    plain (.symbol (String.singleton letter) span) = [letter] := by
  have continues : Lexer.continuesName letter := by
    simp [Lexer.continuesName, Lexer.startsName, isLetter]
  simp [plain, text, Text.compact, Lexer.not_isBlank_of_continuesName continues]

/-- Parentheses stand around what is inside. -/
theorem plain_paren (inner : Expr) (span : Span) :
    plain (.paren inner span) = '(' :: (plain inner ++ [')']) := by
  have opening : Text.isBlank '(' = false := by decide
  have closing : Text.isBlank ')' = false := by decide
  simp [plain, text, Text.compact, opening, closing]

/-- A sign stands in front of its operand. -/
theorem plain_unary (op : UnaryOp) (operand : Expr) (span : Span) :
    plain (.unary op operand span) = op.symbol.toList ++ plain operand := by
  have symbol : Text.compact op.symbol.toList = op.symbol.toList := by cases op <;> decide
  rw [plain, text, String.toList_append, compact_append, symbol, plain]

/-- An operator stands between its operands. -/
theorem plain_binary (op : BinaryOp) (left right : Expr) (span : Span) :
    plain (.binary op left right span) = plain left ++ (op.symbol.toList ++ plain right) := by
  have symbol : Text.compact op.symbol.toList = op.symbol.toList := by cases op <;> decide
  have space : Text.compact " ".toList = [] := by decide
  simp only [plain, text, String.toList_append, compact_append, symbol, space, List.nil_append,
    List.append_assoc]

/-- A small whole number is written by its digits. -/
theorem plain_number {value : Float} {count : Nat} (exactly : Number.Exactly value count)
    (small : count < 2 ^ 53) (span : Span) :
    (∀ char ∈ plain (.number value span), char.isDigit) ∧ plain (.number value span) ≠ []
      ∧ plain (.number value span) = (Number.text value).toList
      ∧ Number.valueOfDigits (plain (.number value span)) = count := by
  obtain ⟨areDigits, nonempty, value_eq⟩ := exactly.text small
  have same : plain (.number value span) = (Number.text value).toList :=
    compact_eq_self fun char member => isBlank_of_isDigit (areDigits char member)
  rw [same]
  exact ⟨areDigits, nonempty, rfl, value_eq⟩

namespace Algebraic

/-- The text without blanks has the words of the tree. -/
theorem spells (algebraic : Algebraic letter expr) (isLetter : isLetter letter) :
    Spells EndsWord (plain expr) expr.words := by
  induction algebraic with
  | @number value count exactly small =>
    obtain ⟨areDigits, nonempty, same, -⟩ := plain_number exactly small nowhere
    have spells := (spells_digits areDigits nonempty).mono fun _ => EndsWord.endsNumber
    rwa [same, String.ofList_toList, ← same] at spells
  | name =>
    rw [plain_symbol isLetter]
    exact spells_letter isLetter
  | paren _ hypothesis =>
    rw [plain_paren]
    exact hypothesis.paren
  | @signed op _ _ _ hypothesis =>
    rw [plain_unary]
    exact hypothesis.unary op
  | joined noSlash _ _ _ _ _ _ leftHypothesis rightHypothesis =>
    rw [plain_binary]
    exact leftHypothesis.binary rightHypothesis noSlash

/-- The words of such a tree are derived to it. -/
theorem derives (algebraic : Algebraic letter expr) (isLetter : isLetter letter) :
    Derives (.ofTightness expr.tightness) expr.words expr := by
  have derives := derives_words (algebraic.readable isLetter) algebraic.isPolynomial.finite
  rwa [algebraic.bare_eq] at derives

/-- The text without blanks is read as the same expression. -/
theorem reads (algebraic : Algebraic letter expr) (isLetter : isLetter letter) :
    Reads (plain expr) expr :=
  ⟨expr.words, (algebraic.spells isLetter).scans Calculus.endsWord_nil,
    (algebraic.derives isLetter).loosen (Nat.zero_le _)⟩

/-- The text without blanks writes what the tree denotes. -/
theorem writes {R : Type} [CommRing R] {value : Polynomial R} (algebraic : Algebraic letter expr)
    (isLetter : isLetter letter) (denotes : expr.Denotes (String.singleton letter) value)
    {tight : Nat} (le : tight ≤ expr.tightness) :
    Calculus.Writes letter EndsWord (.ofTightness tight) (plain expr) value :=
  ⟨expr.words, expr, algebraic.spells isLetter, (algebraic.derives isLetter).loosen le, denotes⟩

/-- Parentheses match in the text without blanks. -/
theorem balanced (algebraic : Algebraic letter expr) (isLetter : isLetter letter) :
    Balanced (plain expr) := by
  obtain ⟨found, scans, derives⟩ := algebraic.reads isLetter
  exact scans.balanced derives

end Algebraic

end Expr

end Workings
