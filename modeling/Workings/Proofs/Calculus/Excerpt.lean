import Workings.Proofs.Calculus.PlainText

/-!
# Excerpts of polynomials

The text of a polynomial without blanks is made of digits, the letter, operators and parentheses.
Its digits have small values, even if they are cut, and no exponent in it is negative. All of this
holds of every excerpt, too, also of one that is no expression.
-/

namespace Workings

/-- The codes of the letters. -/
theorem Lexer.isLetter_iff {char : Char} : isLetter char
    ↔ (97 ≤ char.toNat ∧ char.toNat ≤ 122) ∨ (65 ≤ char.toNat ∧ char.toNat ≤ 90) := by
  simp [isLetter, Char.le_def, UInt32.le_iff_toNat_le]

/-- Letters are no digits. -/
theorem Lexer.not_isDigit_of_isLetter {char : Char} (isLetter : isLetter char) :
    char.isDigit = false := by
  have code := isLetter_iff.1 isLetter
  rw [← Bool.not_eq_true, Number.isDigit_iff]
  omega

/-- Digits in front of others count as often as the power of ten of the number of the others. -/
theorem Number.valueOfDigits_append (digits others : List Char) :
    valueOfDigits (digits ++ others)
      = 10 ^ others.length * valueOfDigits digits + valueOfDigits others := by
  have begun : valueOfDigits (digits ++ others)
      = Nat.ofDigitChars 10 others (valueOfDigits digits) := Nat.ofDigitChars_append 0
  rw [begun, Nat.ofDigitChars_eq_ofDigitChars_zero]
  rfl

/-- Digits that are cut out of others have no larger value. -/
theorem Number.valueOfDigits_le_of_infix {digits others : List Char} (cut : digits <:+: others) :
    valueOfDigits digits ≤ valueOfDigits others := by
  obtain ⟨before, behind, rfl⟩ := cut
  calc valueOfDigits digits
      ≤ 10 ^ digits.length * valueOfDigits before + valueOfDigits digits := Nat.le_add_left _ _
    _ = valueOfDigits (before ++ digits) := (valueOfDigits_append before digits).symm
    _ ≤ 10 ^ behind.length * valueOfDigits (before ++ digits) :=
        Nat.le_mul_of_pos_left _ (Nat.pow_pos (by decide))
    _ ≤ 10 ^ behind.length * valueOfDigits (before ++ digits) + valueOfDigits behind :=
        Nat.le_add_right _ _
    _ = valueOfDigits (before ++ digits ++ behind) :=
        (valueOfDigits_append (before ++ digits) behind).symm

namespace Calculus

/-- The characters that polynomials in a letter are made of. -/
def IsMark (letter char : Char) : Prop :=
  char.isDigit ∨ char = letter ∨ char ∈ "+-*^()".toList

/-- The digits that stand in a text have small values, even if they are cut. -/
def SmallDigits (chars : List Char) : Prop :=
  ∀ digits, digits <:+: chars → (∀ char ∈ digits, char.isDigit) →
    Number.valueOfDigits digits < 2 ^ 53

/-- No minus sign follows a caret or the parenthesis behind a caret. -/
def NoNegativePower (chars : List Char) : Prop :=
  ¬ "^-".toList <:+: chars ∧ ¬ "^(-".toList <:+: chars

/-- What stands in the text of a polynomial in a letter. -/
structure Excerpt (letter : Char) (chars : List Char) : Prop where
  marks : ∀ char ∈ chars, IsMark letter char
  small : SmallDigits chars
  noNegativePower : NoNegativePower chars

variable {letter char : Char} {chars left right after : List Char}

/-- An excerpt of an excerpt is one. -/
theorem Excerpt.cut (excerpt : Excerpt letter chars) {part : List Char} (cut : part <:+: chars) :
    Excerpt letter part where
  marks char member := excerpt.marks char (cut.subset member)
  small digits isInfix areDigits := excerpt.small digits (isInfix.trans cut) areDigits
  noNegativePower := ⟨fun isInfix => excerpt.noNegativePower.1 (isInfix.trans cut),
    fun isInfix => excerpt.noNegativePower.2 (isInfix.trans cut)⟩

/-! ## Digits -/

/-- Digits of a small value have only small ones cut out of them. -/
theorem smallDigits_of_lt (small : Number.valueOfDigits chars < 2 ^ 53) : SmallDigits chars :=
  fun _ cut _ => Nat.lt_of_le_of_lt (Number.valueOfDigits_le_of_infix cut) small

/-- A text without digits has no large ones. -/
theorem smallDigits_nil : SmallDigits [] :=
  smallDigits_of_lt (by decide)

/-- No digits go past a character that is no digit. -/
theorem SmallDigits.around (small : SmallDigits left) (small' : SmallDigits right)
    (noDigit : char.isDigit = false) : SmallDigits (left ++ char :: right) := by
  intro digits cut areDigits
  have behind {others : List Char} (front : others <+: char :: right)
      (areDigits : ∀ other ∈ others, other.isDigit) : others = [] := by
    rcases List.prefix_cons_iff.1 front with rfl | ⟨rest, rfl, -⟩
    · rfl
    · rw [areDigits char List.mem_cons_self] at noDigit
      contradiction
  -- digits that begin on the left end there, and none begin with the character itself
  rcases List.infix_append_iff.1 cut with inLeft | inRight | ⟨first, second, rfl, ending, front⟩
  · exact small digits inLeft areDigits
  · rcases List.infix_cons_iff.1 inRight with front | inside
    · rw [behind front areDigits]
      decide
    · exact small' digits inside areDigits
  · rw [List.forall_mem_append] at areDigits
    obtain rfl := behind front areDigits.2
    rw [List.append_nil]
    exact small first ending.isInfix areDigits.1

/-! ## Exponents -/

/-- Only a caret needs a look at what follows it. -/
theorem noNegativePower_cons : NoNegativePower (char :: chars) ↔
    (char = '^' → ¬ ['-'] <+: chars ∧ ¬ ['(', '-'] <+: chars) ∧ NoNegativePower chars := by
  have first : "^-".toList = '^' :: ['-'] := by decide
  have second : "^(-".toList = '^' :: ['(', '-'] := by decide
  simp only [NoNegativePower, first, second, List.infix_cons_iff, List.cons_prefix_cons]
  grind

/-- No exponent stands in a text without carets. -/
theorem NoNegativePower.behind (noPower : NoNegativePower after)
    (noCaret : ∀ char ∈ chars, char ≠ '^') : NoNegativePower (chars ++ after) := by
  induction chars with
  | nil => exact noPower
  | cons char rest hypothesis =>
    rw [List.forall_mem_cons] at noCaret
    exact noNegativePower_cons.2 ⟨fun caret => absurd caret noCaret.1, hypothesis noCaret.2⟩

end Calculus

namespace Expr

open Calculus

variable {letter : Char} {expr : Expr}

/-- A whole number in parentheses or without begins with no minus sign, not even behind its first
parenthesis. -/
theorem Algebraic.not_minus (algebraic : Algebraic letter expr) {count : Nat}
    (counts : expr.Counts count) (after : List Char) :
    ¬ ['-'] <+: plain expr ++ after ∧ ¬ ['(', '-'] <+: plain expr ++ after := by
  induction algebraic generalizing after with
  | number exactly small =>
    obtain ⟨areDigits, nonempty, -⟩ := plain_number exactly small nowhere
    obtain ⟨first, rest, same⟩ := List.exists_cons_of_ne_nil nonempty
    have digit : first.isDigit := areDigits first (by simp [same])
    rw [same, List.cons_append, List.cons_prefix_cons, List.cons_prefix_cons]
    constructor <;>
    · rintro ⟨rfl, -⟩
      revert digit
      decide
  | paren _ hypothesis =>
    rw [plain_paren, List.cons_append, List.append_assoc, List.cons_prefix_cons,
      List.cons_prefix_cons]
    exact ⟨fun begins => absurd begins.1 (by decide),
      fun begins => (hypothesis counts _).1 begins.2⟩
  | _ => contradiction

/-- No exponent of a polynomial is negative, whatever follows it. -/
theorem Algebraic.noNegativePower (algebraic : Algebraic letter expr)
    (isLetter : Lexer.isLetter letter) {after : List Char} (noPower : NoNegativePower after) :
    NoNegativePower (plain expr ++ after) := by
  induction algebraic generalizing after with
  | number exactly small =>
    obtain ⟨areDigits, -⟩ := plain_number exactly small nowhere
    refine noPower.behind fun char member caret => ?_
    have digit := areDigits char member
    rw [caret] at digit
    contradiction
  | name =>
    rw [plain_symbol isLetter]
    refine noPower.behind fun char member caret => ?_
    obtain rfl := List.mem_singleton.1 member
    rw [caret] at isLetter
    contradiction
  | paren _ hypothesis =>
    have closed : NoNegativePower (')' :: after) :=
      noNegativePower_cons.2 ⟨fun caret => absurd caret (by decide), noPower⟩
    rw [plain_paren, List.cons_append, List.append_assoc]
    exact noNegativePower_cons.2 ⟨fun caret => absurd caret (by decide), hypothesis closed⟩
  | @signed op _ _ _ hypothesis =>
    rw [plain_unary, List.append_assoc]
    exact (hypothesis noPower).behind (by cases op <;> simp [UnaryOp.symbol])
  | @joined op left right _ _ exponent _ _ _ rightInside leftHypothesis rightHypothesis =>
    rw [plain_binary, List.append_assoc, List.append_assoc]
    refine leftHypothesis ?_
    by_cases power : op = .power
    · obtain ⟨count, -, counts⟩ := exponent power
      rw [power]
      exact noNegativePower_cons.2
        ⟨fun _ => rightInside.not_minus counts after, rightHypothesis noPower⟩
    · refine (rightHypothesis noPower).behind ?_
      cases op with
      | power => contradiction
      | _ => simp [BinaryOp.symbol]

/-- The digits of a polynomial have small values. -/
theorem Algebraic.smallDigits (algebraic : Algebraic letter expr)
    (isLetter : Lexer.isLetter letter) : SmallDigits (plain expr) := by
  induction algebraic with
  | number exactly small =>
    obtain ⟨-, -, -, value_eq⟩ := plain_number exactly small nowhere
    exact smallDigits_of_lt (by rwa [value_eq])
  | name =>
    have noDigit := Lexer.not_isDigit_of_isLetter isLetter
    rw [plain_symbol isLetter]
    exact smallDigits_nil.around smallDigits_nil noDigit
  | paren _ hypothesis =>
    rw [plain_paren]
    exact smallDigits_nil.around (hypothesis.around smallDigits_nil (by decide)) (by decide)
  | @signed op _ _ _ hypothesis =>
    rw [plain_unary]
    cases op <;> exact smallDigits_nil.around hypothesis (by decide)
  | @joined op _ _ _ _ _ _ _ _ _ leftHypothesis rightHypothesis =>
    rw [plain_binary]
    cases op <;> exact leftHypothesis.around rightHypothesis (by decide)

/-- A polynomial is made of digits, the letter, operators and parentheses. -/
theorem Algebraic.marks (algebraic : Algebraic letter expr) (isLetter : Lexer.isLetter letter) :
    ∀ char ∈ plain expr, IsMark letter char := by
  have sign {char : Char} (member : char ∈ "+-*^()".toList) : IsMark letter char :=
    .inr (.inr member)
  induction algebraic with
  | number exactly small =>
    obtain ⟨areDigits, -⟩ := plain_number exactly small nowhere
    exact fun char member => .inl (areDigits char member)
  | name =>
    rw [plain_symbol isLetter]
    simp [IsMark]
  | paren _ hypothesis =>
    simp only [plain_paren, List.forall_mem_cons, List.forall_mem_append]
    exact ⟨sign (by decide), hypothesis, sign (by decide), by simp⟩
  | @signed op _ _ _ hypothesis =>
    rw [plain_unary, List.forall_mem_append]
    refine ⟨fun char member => sign ?_, hypothesis⟩
    cases op <;> simp_all [UnaryOp.symbol]
  | @joined op _ _ noSlash noModulo _ _ _ _ _ leftHypothesis rightHypothesis =>
    rw [plain_binary, List.forall_mem_append, List.forall_mem_append]
    refine ⟨leftHypothesis, fun char member => sign ?_, rightHypothesis⟩
    cases op <;> simp_all [BinaryOp.symbol]

/-- The text of a polynomial without blanks is an excerpt of itself. -/
theorem Algebraic.excerpt (algebraic : Algebraic letter expr)
    (isLetter : Lexer.isLetter letter) : Excerpt letter (plain expr) where
  marks := algebraic.marks isLetter
  small := algebraic.smallDigits isLetter
  noNegativePower := by
    have nothing : NoNegativePower [] := by constructor <;> simp
    have whole := algebraic.noNegativePower isLetter nothing
    rwa [List.append_nil] at whole

end Expr

end Workings
