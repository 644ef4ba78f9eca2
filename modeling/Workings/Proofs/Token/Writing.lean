import Workings.Proofs.Token.Scanning

/-!
# Texts that are written word by word

A word that is written in front of a text is the first word of the whole, if the text does not go on
with it. What the other words are does not change, but the name of a function counts as one only in
front of a parenthesis.
-/

namespace Workings.Lexer

/-- A text that does not go on with a name, and does not make a derivative of a single letter. -/
def EndsName (chars : List Char) : Prop :=
  ∀ char ∈ chars.head?, continuesName char = false ∧ char ≠ '/'

/-- A text that does not go on with a number. -/
def EndsNumber (chars : List Char) : Prop :=
  ∀ char ∈ chars.head?, isDigit char = false ∧ char ≠ '.'

/-- A text that does not go on with blanks. -/
def EndsBlank (chars : List Char) : Prop :=
  ∀ char ∈ chars.head?, isSeparator char = false

/-- An opening parenthesis goes on with no name. -/
theorem endsName_opening (after : List Char) : EndsName ('(' :: after) := by
  intro char head
  obtain rfl := Option.some.inj head
  decide

/-- A differential goes on with no blanks. -/
theorem endsBlank_differential (after : List Char) : EndsBlank ('d' :: after) := by
  intro char head
  obtain rfl := Option.some.inj head
  decide

/-! ## Pieces -/

/-- The characters that belong to a piece end where the text goes on otherwise. -/
theorem takePiece_append (kind : PieceKind) {belongs : Char → Bool} {chars after : List Char}
    (belong : ∀ char ∈ chars, belongs char) (ends : ∀ char ∈ after.head?, belongs char = false) :
    takePiece kind belongs [] (chars ++ after) = (⟨kind, chars⟩, after) := by
  unfold takePiece
  rw [List.takeWhile_append_of_pos belong, List.dropWhile_append_of_pos belong]
  cases after with
  | nil => simp
  | cons char rest => simp [ends char rfl]

/-- A character with which no name begins is not the one with which a name begins. -/
theorem ne_of_startsName {char other : Char} (starts : startsName char)
    (startsNone : startsName other = false) : char ≠ other := by
  rintro rfl
  rw [starts] at startsNone
  contradiction

/-- No name begins with a character that parts tokens. -/
theorem not_isSeparator_of_startsName {char : Char} (starts : startsName char) :
    isSeparator char = false := by
  have space := ne_of_startsName starts (show startsName ' ' = false by decide)
  have tab := ne_of_startsName starts (show startsName '\t' = false by decide)
  have newline := ne_of_startsName starts (show startsName '\n' = false by decide)
  have return_ := ne_of_startsName starts (show startsName '\r' = false by decide)
  have feed := ne_of_startsName starts (show startsName '\x0c' = false by decide)
  simp [isSeparator, space, tab, newline, return_, feed]

/-- A name consists of characters that a name may go on with. -/
theorem continuesName_of_mem {name : List Char} (identifier : Expr.isIdentifier name) :
    ∀ char ∈ name, continuesName char := by
  cases name with
  | nil => contradiction
  | cons first rest =>
    obtain ⟨starts, continues⟩ := Bool.and_eq_true_iff.1 identifier
    intro char member
    rcases List.mem_cons.1 member with rfl | inRest
    · simp [continuesName, starts]
    · exact List.all_eq_true.1 continues char inRest

/-- A text that begins like a name, but with no derivative operator, begins with a word. -/
theorem takePiece?_word {char : Char} {rest : List Char} (starts : startsName char)
    (noDerivative : ∀ letter after, char :: rest = 'd' :: '/' :: 'd' :: letter :: after →
      isLetter letter = false) :
    takePiece? (char :: rest) = some (takePiece .word continuesName [] (char :: rest)) := by
  have noSign := ne_of_startsName starts (show startsName '∫' = false by decide)
  simp only [takePiece?, not_isSeparator_of_startsName starts, noSign, starts, Bool.false_eq_true,
    if_false, if_true]
  split
  · rename_i letter after
    rw [noDerivative letter after rfl]
    rfl
  · rfl

/-- A name is taken off. -/
theorem takePiece?_name {name after : List Char} (identifier : Expr.isIdentifier name)
    (ends : EndsName after) : takePiece? (name ++ after) = some (⟨.word, name⟩, after) := by
  cases name with
  | nil => contradiction
  | cons char rest =>
    obtain ⟨starts, -⟩ := Bool.and_eq_true_iff.1 identifier
    have belong := continuesName_of_mem identifier
    have taken := takePiece_append .word belong fun char' head => (ends char' head).1
    have noSlash : (rest ++ after).head? ≠ some '/' := by
      intro slash
      cases rest with
      | nil => exact (ends '/' slash).2 rfl
      | cons next others =>
        obtain rfl := Option.some.inj slash
        exact absurd (belong '/' (by simp)) (by decide)
    rw [List.cons_append, takePiece?_word starts, ← List.cons_append, taken]
    intro letter following derivative
    rw [(List.cons.inj derivative).2] at noSlash
    exact absurd rfl noSlash

/-- A digit begins neither blanks nor a name. -/
theorem begins_of_isDigit {char : Char} (digit : isDigit char) :
    isSeparator char = false ∧ char ≠ '∫' ∧ startsName char = false := by
  have apart {other : Char} (noDigit : isDigit other = false) : char ≠ other := by
    rintro rfl
    rw [digit] at noDigit
    contradiction
  have space := apart (show isDigit ' ' = false by decide)
  have tab := apart (show isDigit '\t' = false by decide)
  have newline := apart (show isDigit '\n' = false by decide)
  have return_ := apart (show isDigit '\r' = false by decide)
  have feed := apart (show isDigit '\x0c' = false by decide)
  have underscore := apart (show isDigit '_' = false by decide)
  have noLetter : isLetter char = false := by
    simp only [isDigit, isLetter, Bool.and_eq_true, decide_eq_true_eq, Char.le_def,
      UInt32.le_iff_toNat_le, Bool.or_eq_false_iff, Bool.and_eq_false_iff,
      decide_eq_false_iff_not] at digit ⊢
    have nine : '9'.val.toNat = 57 := rfl
    have upper : 'A'.val.toNat = 65 := rfl
    have lower : 'a'.val.toNat = 97 := rfl
    omega
  refine ⟨?_, apart (by decide), ?_⟩
  · simp [isSeparator, space, tab, newline, return_, feed]
  · simp [startsName, noLetter, underscore]

/-- Digits without a point are taken off as a number. -/
theorem takeNumber_whole {digits after : List Char} (areDigits : ∀ char ∈ digits, char.isDigit)
    (ends : EndsNumber after) : takeNumber (digits ++ after) = (⟨.number, digits⟩, after) := by
  have stops : Number.StartsWithoutDigit after := fun char head => by
    rw [← isDigit_eq]
    exact (ends char head).1
  unfold takeNumber
  rw [isDigit_eq, Number.takeWhile_digits areDigits stops, Number.dropWhile_digits areDigits stops]
  cases after with
  | nil => rfl
  | cons char rest =>
    have noPoint := (ends char rfl).2
    dsimp only
    split
    · rename_i point
      exact absurd (List.cons.inj point).1 noPoint
    · rfl

/-- Digits on both sides of a point are taken off as a number. -/
theorem takeNumber_point {whole fraction after : List Char}
    (wholeDigits : ∀ char ∈ whole, char.isDigit)
    (fractionDigits : ∀ char ∈ fraction, char.isDigit) (nonempty : fraction ≠ [])
    (ends : EndsNumber after) :
    takeNumber (whole ++ '.' :: fraction ++ after)
      = (⟨.number, whole ++ '.' :: fraction⟩, after) := by
  have stops : Number.StartsWithoutDigit after := fun char head => by
    rw [← isDigit_eq]
    exact (ends char head).1
  have point : Number.StartsWithoutDigit ('.' :: (fraction ++ after)) := by
    simp [Number.StartsWithoutDigit]
  obtain ⟨digit, others, rfl⟩ := List.exists_cons_of_ne_nil nonempty
  have isDigit : digit.isDigit := fractionDigits digit List.mem_cons_self
  have taken := Number.takeWhile_digits fractionDigits stops
  have dropped := Number.dropWhile_digits fractionDigits stops
  unfold takeNumber
  rw [isDigit_eq, List.append_assoc, List.cons_append,
    Number.takeWhile_digits wholeDigits point, Number.dropWhile_digits wholeDigits point]
  simp only [List.cons_append] at taken dropped ⊢
  rw [if_pos isDigit, takePiece, taken, dropped]
  simp

/-- A numeral is taken off. -/
theorem takePiece?_numeral {chars after : List Char} {decimal : Number.Decimal}
    (numeral : Number.Numeral chars decimal) (ends : EndsNumber after) :
    takePiece? (chars ++ after) = some (⟨.number, chars⟩, after) := by
  have taken : takeNumber (chars ++ after) = (⟨.number, chars⟩, after) := by
    cases numeral with
    | whole areDigits _ => exact takeNumber_whole areDigits ends
    | point wholeDigits fractionDigits _ nonempty =>
      exact takeNumber_point wholeDigits fractionDigits nonempty ends
  obtain ⟨char, rest, rfl, digit⟩ := numeral.head
  rw [← isDigit_eq] at digit
  obtain ⟨noBlank, noSign, noName⟩ := begins_of_isDigit digit
  simp only [List.cons_append] at taken
  simp only [List.cons_append, takePiece?, noBlank, noSign, noName, digit, Bool.false_eq_true,
    if_false, if_true, taken]

/-- A derivative operator is taken off. -/
theorem takePiece?_derivative {letter : Char} (isLetter : isLetter letter) (after : List Char) :
    takePiece? ('d' :: '/' :: 'd' :: letter :: after)
      = some (⟨.derivative, ['d', '/', 'd', letter]⟩, after) := by
  have separator : isSeparator 'd' = false := by decide
  have starts : startsName 'd' = true := by decide
  have noSign : 'd' ≠ '∫' := by decide
  simp only [takePiece?, separator, starts, noSign, isLetter, Bool.false_eq_true, if_false, if_true]

/-- A space is taken off. -/
theorem takePiece?_space {after : List Char} (ends : EndsBlank after) :
    takePiece? (' ' :: after) = some (⟨.blank, [' ']⟩, after) := by
  have separator : isSeparator ' ' = true := by decide
  have belong : ∀ char ∈ [' '], isSeparator char := by simpa using separator
  have taken := takePiece_append .blank belong ends
  simp only [takePiece?, separator, if_true]
  exact congrArg some taken

/-! ## Words -/

variable {after : List Char} {found : List Word}

/-- An empty text has no words. -/
theorem scans_nil : Scans [] [] :=
  ⟨[], .nil, rfl⟩

/-- The word of a piece stands in front of the words of the rest, if it does not depend on them. -/
theorem Scans.cons (piece : Piece) {chars : List Char} {word : Word}
    (taken : takePiece? chars = some (piece, after))
    (isWord : ∀ pieces, word? piece pieces = some word) (scans : Scans after found) :
    Scans chars (word :: found) := by
  obtain ⟨pieces, cuts, rfl⟩ := scans
  refine ⟨piece :: pieces, .cons taken cuts, ?_⟩
  rw [words_cons, isWord]
  rfl

/-- A space makes no word. -/
theorem Scans.space (ends : EndsBlank after) (scans : Scans after found) :
    Scans (' ' :: after) found := by
  obtain ⟨pieces, cuts, rfl⟩ := scans
  refine ⟨_, .cons (takePiece?_space ends) cuts, ?_⟩
  rw [words_cons]
  rfl

/-- An opening parenthesis is a word. -/
theorem Scans.opening (scans : Scans after found) : Scans ('(' :: after) (.opening :: found) :=
  scans.cons ⟨.opening, ['(']⟩ rfl fun _ => rfl

/-- A closing parenthesis is a word. -/
theorem Scans.closing (scans : Scans after found) : Scans (')' :: after) (.closing :: found) :=
  scans.cons ⟨.closing, [')']⟩ rfl fun _ => rfl

/-- An integral sign is a word. -/
theorem Scans.integralSign (scans : Scans after found) :
    Scans ('∫' :: after) (.integralSign :: found) :=
  scans.cons ⟨.integralSign, ['∫']⟩ rfl fun _ => rfl

/-- The symbol of an operator between operands is a word. -/
theorem Scans.binary (op : BinaryOp) (scans : Scans after found) :
    Scans (op.symbol.toList ++ after) (.operator op.symbol :: found) := by
  cases op <;> exact scans.cons ⟨.operator, _⟩ rfl fun _ => rfl

/-- A sign is a word. -/
theorem Scans.unary (op : UnaryOp) (scans : Scans after found) :
    Scans (op.symbol.toList ++ after) (.operator op.symbol :: found) := by
  cases op <;> exact scans.cons ⟨.operator, _⟩ rfl fun _ => rfl

/-- A derivative operator is a word. -/
theorem Scans.derivative {letter : Char} (isLetter : isLetter letter) (scans : Scans after found) :
    Scans ('d' :: '/' :: 'd' :: letter :: after)
      (.derivative (String.singleton letter) :: found) := by
  refine scans.cons _ (takePiece?_derivative isLetter after) fun pieces => ?_
  simp [word?, tokenKind?, Token.word, Reader.derivativeLetter]

/-- A numeral is a word. -/
theorem Scans.numeral {lexeme : String} {decimal : Number.Decimal}
    (numeral : Number.Numeral lexeme.toList decimal) (ends : EndsNumber after)
    (scans : Scans after found) : Scans (lexeme.toList ++ after) (.number lexeme :: found) := by
  refine scans.cons _ (takePiece?_numeral numeral ends) fun pieces => ?_
  simp [word?, tokenKind?, Token.word]

/-- A differential is a word. -/
theorem Scans.differential {letter : Char} (isLetter : isLetter letter) (ends : EndsName after)
    (scans : Scans after found) :
    Scans ('d' :: letter :: after) (.differential (String.singleton letter) :: found) := by
  have continues : continuesName letter := by simp [continuesName, startsName, isLetter]
  have identifier : Expr.isIdentifier ['d', letter] := by
    simpa [Expr.isIdentifier, continues] using (show startsName 'd' by decide)
  have differential : isDifferential ['d', letter] = true := isLetter
  refine scans.cons _ (takePiece?_name identifier ends) fun pieces => ?_
  simp [word?, tokenKind?, nameKind, differential, Token.word, Reader.differentialLetter]

/-- A name is a word that is neither a differential nor, if no parenthesis follows, a function. -/
theorem Scans.name {name : String} (identifier : Expr.isIdentifier name.toList)
    (noDifferential : isDifferential name.toList = false) (ends : EndsName after)
    (noOpening : found.head? ≠ some .opening) (scans : Scans after found) :
    Scans (name.toList ++ after) (.name name :: found) := by
  obtain ⟨pieces, cuts, rfl⟩ := scans
  have notOpens : opensNext pieces = false := by
    rw [← Bool.not_eq_true, opensNext_iff]
    exact noOpening
  refine ⟨_, .cons (takePiece?_name identifier ends) cuts, ?_⟩
  rw [words_cons]
  simp [word?, tokenKind?, nameKind, noDifferential, notOpens, Token.word]

/-- The names of functions are names. -/
theorem isIdentifier_of_named? {name : String} (named : (Function.named? name).isSome) :
    Expr.isIdentifier name.toList ∧ isDifferential name.toList = false := by
  obtain ⟨function, found⟩ := Option.isSome_iff_exists.1 named
  obtain rfl := Function.named?_eq_some_iff.1 found
  cases function <;> decide

/-- The name of a function in front of a parenthesis is a word. -/
theorem Scans.function {name : String} (named : (Function.named? name).isSome)
    (scans : Scans after found) :
    Scans (name.toList ++ '(' :: after) (.function name :: .opening :: found) := by
  obtain ⟨identifier, noDifferential⟩ := isIdentifier_of_named? named
  obtain ⟨pieces, cuts, words_eq⟩ := scans.opening
  have opens : opensNext pieces = true := by
    rw [opensNext_iff, words_eq]
    rfl
  refine ⟨_, .cons (takePiece?_name identifier (endsName_opening after)) cuts, ?_⟩
  rw [words_cons, words_eq]
  simp [word?, tokenKind?, nameKind, noDifferential, opens, named, Token.word]

end Workings.Lexer
