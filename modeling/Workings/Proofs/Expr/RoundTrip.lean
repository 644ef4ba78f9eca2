import Workings.Proofs.Expr.Readable

/-!
# Texts of trees are read back

The text of a tree that was read is cut into the words of the tree. So it is read as the same tree,
and two trees with the same text are the same.
-/

namespace Workings.Expr

/-! ## Regions -/

/-- A tree without regions has none to lose. -/
@[simp] theorem bare_bare (expr : Expr) : expr.bare.bare = expr.bare := by
  induction expr <;> simp_all [bare, nowhere]

/-- Regions do not count for whether a bound is written between parentheses. -/
@[simp] theorem boundText_bare (bound : Expr) (written : String) :
    boundText bound.bare written = boundText bound written := by
  cases bound <;> rfl

/-- Regions do not count for the text of a tree. -/
@[simp] theorem text_bare (expr : Expr) : expr.bare.text = expr.text := by
  induction expr <;> simp_all [bare, text]

/-- Regions do not count for the words of a tree. -/
@[simp] theorem words_bare (expr : Expr) : expr.bare.words = expr.words := by
  induction expr <;> simp_all [bare, words]

/-- Regions do not count for the numbers of a tree. -/
@[simp] theorem literals_bare (expr : Expr) : expr.bare.literals = expr.literals := by
  induction expr <;> simp_all [bare, literals]

/-- Regions do not count for how tightly a tree binds. -/
@[simp] theorem tightness_bare (expr : Expr) : expr.bare.tightness = expr.tightness := by
  cases expr <;> rfl

/-- Regions do not count for whether a tree can be written. -/
@[simp] theorem readable_bare (expr : Expr) : expr.bare.Readable ↔ expr.Readable := by
  induction expr with
  | indefinite wrt body span hypothesis =>
    cases body <;> simp_all [bare, Readable]
  | _ => simp_all [bare, Readable]

/-! ## From texts to words -/

/-- A text that goes on behind a tree: with a space, with a closing parenthesis, or not at all. -/
def Breaks (chars : List Char) : Prop :=
  ∀ char ∈ chars.head?, char = ' ' ∨ char = ')'

/-- What goes on behind a tree does not go on with a name. -/
theorem Breaks.endsName {chars : List Char} (breaks : Breaks chars) : Lexer.EndsName chars := by
  intro char head
  rcases breaks char head with rfl | rfl <;> decide

/-- What goes on behind a tree does not go on with a number. -/
theorem Breaks.endsNumber {chars : List Char} (breaks : Breaks chars) :
    Lexer.EndsNumber chars := by
  intro char head
  rcases breaks char head with rfl | rfl <;> decide

/-- A space may go on behind a tree. -/
theorem breaks_space (chars : List Char) : Breaks (' ' :: chars) := by
  intro char head
  exact .inl (Option.some.inj head).symm

/-- A closing parenthesis may go on behind a tree. -/
theorem breaks_closing (chars : List Char) : Breaks (')' :: chars) := by
  intro char head
  exact .inr (Option.some.inj head).symm

/-- The text of a number of a tree that can be written is a numeral. -/
theorem numeral_text {value : Float} (unsigned : Number.Unsigned value)
    (finite : value.isFinite) :
    ∃ decimal, Number.Numeral (Number.text value).toList decimal := by
  obtain ⟨parts, decoded⟩ := Number.isFinite_iff.1 finite
  obtain ⟨decimal, numeral, -⟩ := Number.numeral_text decoded (unsigned parts decoded)
  exact ⟨decimal, numeral⟩

/-- A name begins with no blank. -/
theorem head_of_isIdentifier {chars : List Char} (identifier : isIdentifier chars) :
    ∃ char rest, chars = char :: rest ∧ Lexer.isSeparator char = false := by
  cases chars with
  | nil => contradiction
  | cons char rest =>
    obtain ⟨starts, -⟩ := Bool.and_eq_true_iff.1 identifier
    exact ⟨char, rest, rfl, Lexer.not_isSeparator_of_startsName starts⟩

/-- The text of a tree begins with no blank. -/
theorem Readable.head {expr : Expr} (readable : expr.Readable) (finite : expr.Finite) :
    ∃ char rest, expr.text.toList = char :: rest ∧ Lexer.isSeparator char = false := by
  induction expr with
  | number value span =>
    obtain ⟨decimal, numeral⟩ := numeral_text readable (finite value (by simp [literals]))
    obtain ⟨char, rest, same, digit⟩ := numeral.head
    rw [← Lexer.isDigit_eq] at digit
    exact ⟨char, rest, same, (Lexer.begins_of_isDigit digit).1⟩
  | symbol name span => exact head_of_isIdentifier readable.1
  | paren inner span => exact ⟨'(', inner.text.toList ++ [')'], by simp [text], by decide⟩
  | call function _ argument _ _ =>
    obtain ⟨char, rest, same, noBlank⟩ :=
      head_of_isIdentifier (Lexer.isIdentifier_of_named? readable.1).1
    exact ⟨char, rest ++ '(' :: (argument.text.toList ++ [')']), by simp [text, same], noBlank⟩
  | unary op operand span =>
    cases op with
    | minus => exact ⟨'-', operand.text.toList, by simp [text, UnaryOp.symbol], by decide⟩
    | plus => exact ⟨'+', operand.text.toList, by simp [text, UnaryOp.symbol], by decide⟩
  | binary op left right span leftHypothesis _ =>
    obtain ⟨char, rest, same, noBlank⟩ := leftHypothesis readable.2.2.1 finite.left
    exact ⟨char, rest ++ ' ' :: (op.symbol.toList ++ ' ' :: right.text.toList),
      by simp [text, same], noBlank⟩
  | derivative wrt body span =>
    exact ⟨'d', '/' :: 'd' :: (wrt.toList ++ '(' :: (body.text.toList ++ [')'])),
      by simp [text], by decide⟩
  | indefinite wrt body span =>
    exact ⟨'∫', body.text.toList ++ ' ' :: 'd' :: wrt.toList, by simp [text], by decide⟩
  | definite => contradiction

/-- The text of a tree begins with no blank. -/
theorem Readable.endsBlank {expr : Expr} (readable : expr.Readable) (finite : expr.Finite)
    (after : List Char) : Lexer.EndsBlank (expr.text.toList ++ after) := by
  obtain ⟨char, rest, same, noBlank⟩ := readable.head finite
  rw [same]
  intro char' isHead
  obtain rfl := Option.some.inj isHead
  exact noBlank

/-- The text of a tree has the words of the tree. -/
theorem Readable.scans {expr : Expr} (readable : expr.Readable) (finite : expr.Finite)
    {after : List Char} {found : List Word} (breaks : Breaks after)
    (noOpening : found.head? ≠ some .opening) (scans : Lexer.Scans after found) :
    Lexer.Scans (expr.text.toList ++ after) (expr.words ++ found) := by
  induction expr generalizing after found with
  | number value span =>
    obtain ⟨decimal, numeral⟩ := numeral_text readable (finite value (by simp [literals]))
    exact scans.numeral numeral breaks.endsNumber
  | symbol name span => exact scans.name readable.1 readable.2 breaks.endsName noOpening
  | paren inner span hypothesis =>
    have inside := hypothesis readable finite (breaks_closing after) (by simp) scans.closing
    simpa [text, words] using inside.opening
  | call function _ argument _ _ hypothesis =>
    have inside := hypothesis readable.2 finite (breaks_closing after) (by simp) scans.closing
    simpa [text, words] using inside.function readable.1
  | unary op operand span hypothesis =>
    have signed := (hypothesis readable.2 finite breaks noOpening scans).unary op
    simpa [text, words] using signed
  | binary op left right span leftHypothesis rightHypothesis =>
    obtain ⟨-, -, leftReadable, rightReadable⟩ := readable
    have rightScans := rightHypothesis rightReadable finite.right breaks noOpening scans
    have joined := (rightScans.space (rightReadable.endsBlank finite.right after)).binary op
    have symbol : Lexer.EndsBlank
        (op.symbol.toList ++ ' ' :: (right.text.toList ++ after)) := by
      cases op <;> intro char head <;> obtain rfl := Option.some.inj head <;> decide
    have whole := leftHypothesis leftReadable finite.left (breaks_space _) (by simp)
      (joined.space symbol)
    simpa [text, words] using whole
  | derivative wrt body span hypothesis =>
    obtain ⟨⟨letter, isLetter, rfl⟩, bodyReadable⟩ := readable
    have inside := hypothesis bodyReadable finite (breaks_closing after) (by simp) scans.closing
    simpa [text, words] using inside.opening.derivative isLetter
  | indefinite wrt body span hypothesis =>
    obtain ⟨⟨letter, isLetter, rfl⟩, -, bodyReadable⟩ := readable
    have differential := scans.differential isLetter breaks.endsName
    have inside := hypothesis bodyReadable finite (breaks_space _) (by simp)
      (differential.space (Lexer.endsBlank_differential (letter :: after)))
    simpa [text, words] using inside.integralSign
  | definite => contradiction

/-- The text of a tree that can be written has its words and no others. -/
theorem Readable.scans_text {expr : Expr} (readable : expr.Readable) (finite : expr.Finite) :
    Lexer.Scans expr.text.toList expr.words := by
  have nothing : Breaks [] := by simp [Breaks]
  have scans := readable.scans finite nothing (by simp) Lexer.scans_nil
  rwa [List.append_nil, List.append_nil] at scans

/-! ## From words to trees -/

/-- The words of a tree that can be written are an expression. -/
theorem Readable.derives {expr : Expr} (readable : expr.Readable) (finite : expr.Finite) :
    Derives .expression expr.words expr.bare :=
  (derives_words readable finite).loosen (Nat.zero_le _)

/-- Trees that can be written and have the same text are the same, regions aside. -/
theorem Readable.bare_eq_of_text_eq {left right : Expr} (leftReadable : left.Readable)
    (rightReadable : right.Readable) (leftFinite : left.Finite) (rightFinite : right.Finite)
    (same : left.text = right.text) : left.bare = right.bare := by
  have leftScans := leftReadable.scans_text leftFinite
  have rightScans := rightReadable.scans_text rightFinite
  rw [same] at leftScans
  have leftDerives := leftReadable.derives leftFinite
  rw [leftScans.unique rightScans] at leftDerives
  exact leftDerives.unique (rightReadable.derives rightFinite)

/-- The tree of a text that was read by the grammar can be written and keeps to the bounds. -/
theorem readable_of_readRegion {position : Nat} {chars : List Char} {ceiling : Nat} {expr : Expr}
    (reads : readRegion position chars ceiling = .ok expr) :
    expr.Readable ∧ expr.Within ceiling := by
  obtain ⟨found, scans, derives, within⟩ := derives_of_readRegion reads
  exact ⟨(readable_bare expr).1 (derives.admits scans.lexical).2, within⟩

/-- The text of a tree that was read by the grammar is read as the same tree with the same ceiling,
regions aside, if its numbers are finite. -/
theorem text_reads_back {source : String} {ceiling : Nat} {expr : Expr}
    (reads : readRegion 0 source.toList ceiling = .ok expr)
    (finite : ∀ value ∈ expr.literals, value.isFinite) :
    ∃ again, readRegion 0 expr.text.toList ceiling = .ok again ∧ again.bare = expr.bare := by
  obtain ⟨readable, within⟩ := readable_of_readRegion reads
  obtain ⟨tokens, scanned, words_eq⟩ := Lexer.scans_iff.1 (readable.scans_text finite)
  refine (readRegion_iff scanned ceiling expr.bare).2 ⟨?_, within_bare.2 within⟩
  rw [words_eq]
  exact readable.derives finite

/-- A product with a sign and an integral, written differently from its canonical text. -/
theorem text_reads_back_product :
    ∃ expr again, readRegion 0 "-2*∫( x )dx".toList 1 = .ok expr
      ∧ readRegion 0 expr.text.toList 1 = .ok again ∧ again.bare = expr.bare := by
  have reads : readRegion 0 "-2*∫( x )dx".toList 1 = .ok
      (.binary .times (.unary .minus (.number 2 ⟨1, 2⟩) ⟨0, 2⟩)
        (.indefinite "x" (.paren (.symbol "x" ⟨8, 9⟩) ⟨6, 11⟩) ⟨3, 13⟩) ⟨0, 13⟩) := by
    rfl
  have finite : ∀ value ∈ ([2] : List Float), value.isFinite := by
    intro value member
    obtain rfl := List.mem_singleton.1 member
    rfl
  obtain ⟨again, readsAgain, same⟩ := text_reads_back reads finite
  exact ⟨_, again, reads, readsAgain, same⟩

end Workings.Expr
