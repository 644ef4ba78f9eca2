import Workings.Proofs.Token.Writing

/-!
# Texts that are split in two

Where a text is split between two pieces, its words are those of its parts one after the other. A
text may be split in front of a closing parenthesis, and in front of blanks that are not split
themselves. No blank of a text that has words is anything but a separator, and its parentheses are
those of its words.
-/

namespace Workings.Lexer

/-! ## Kinds of characters -/

/-- A character that parts tokens goes on with no name and no number. -/
theorem continuesNone_of_isSeparator {char : Char} (separator : isSeparator char) :
    continuesName char = false ∧ isDigit char = false := by
  have noDigit : isDigit char = false := by
    rw [← Bool.not_eq_true]
    intro digit
    rw [(begins_of_isDigit digit).1] at separator
    contradiction
  have noStart : startsName char = false := by
    rw [← Bool.not_eq_true]
    intro starts
    rw [not_isSeparator_of_startsName starts] at separator
    contradiction
  simp [continuesName, noStart, noDigit]

/-- A character that parts tokens is white space. -/
theorem isBlank_of_isSeparator {char : Char} (separator : isSeparator char) :
    Text.isBlank char := by
  simp only [isSeparator, Bool.or_eq_true, decide_eq_true_eq] at separator
  rcases separator with (((rfl | rfl) | rfl) | rfl) | rfl <;> decide

/-- A character that a name may go on with is no white space. -/
theorem not_isBlank_of_continuesName {char : Char} (continues : continuesName char) :
    Text.isBlank char = false := by
  rw [← Bool.not_eq_true, Text.isBlank, Text.RangeTable.has_iff]
  rintro ⟨range, member, first_le, le_last⟩
  simp only [continuesName, startsName, isLetter, isDigit, Bool.or_eq_true, Bool.and_eq_true,
    decide_eq_true_eq, Char.le_def, UInt32.le_iff_toNat_le] at continues
  simp only [Text.blankRanges, List.mem_cons, List.not_mem_nil, or_false] at member
  have code : (48 ≤ char.toNat ∧ char.toNat ≤ 57) ∨ (65 ≤ char.toNat ∧ char.toNat ≤ 122) := by
    rcases continues with ((lower | upper) | rfl) | digit
    · exact .inr ⟨Nat.le_trans (by decide) lower.1, lower.2⟩
    · exact .inr ⟨upper.1, Nat.le_trans upper.2 (by decide)⟩
    · decide
    · exact .inl digit
  rcases member with rfl | rfl | rfl | rfl | rfl | rfl | rfl | rfl | rfl | rfl <;>
    dsimp only at first_le le_last <;> omega

/-! ## Seams -/

/-- A text may be split in front of a closing parenthesis, and in front of a separator that follows
none. -/
def Seam (left right : List Char) : Prop :=
  ∀ char ∈ right.head?, char = ')'
    ∨ isSeparator char ∧ ∀ last ∈ left.getLast?, isSeparator last = false

variable {left right : List Char}

/-- Behind a seam, no name and no number goes on. -/
theorem Seam.continuesNone (seam : Seam left right) :
    ∀ char ∈ right.head?, continuesName char = false ∧ isDigit char = false := by
  intro char head
  rcases seam char head with rfl | ⟨separator, -⟩
  · decide
  · exact continuesNone_of_isSeparator separator

/-- A text that goes on behind a seam begins with none of the other characters. -/
theorem Seam.head_ne (seam : Seam left right) {char : Char} (noClosing : char ≠ ')')
    (noSeparator : isSeparator char = false) : right.head? ≠ some char := by
  intro head
  rcases seam char head with closing | ⟨separator, -⟩
  · exact noClosing closing
  · rw [noSeparator] at separator
    contradiction

/-- Blanks end at a seam. -/
theorem Seam.endsBlank (seam : Seam left right) (nonempty : left ≠ []) :
    (∀ char ∈ right.head?, isSeparator char = false)
      ∨ ∃ char ∈ left, isSeparator char = false := by
  cases right with
  | nil => exact .inl (by simp)
  | cons char rest =>
    rcases seam char rfl with rfl | ⟨-, noSeparator⟩
    · left
      intro other head
      obtain rfl := Option.some.inj head
      decide
    · have last := List.getLast?_eq_some_getLast nonempty
      exact .inr ⟨_, List.getLast_mem nonempty, noSeparator _ last⟩

/-- A seam of a text is one of its end. -/
theorem Seam.of_append {front : List Char} (seam : Seam (front ++ left) right) :
    Seam left right := by
  intro char head
  refine (seam char head).imp_right fun ⟨separator, noSeparator⟩ => ⟨separator, ?_⟩
  intro last isLast
  exact noSeparator last (by simp [List.getLast?_append, Option.mem_def.1 isLast])

/-! ## Pieces in front of a seam -/

/-- The characters that belong to a piece end in front of a text that goes on otherwise, and where
one does not belong. -/
theorem takeWhile_append_left {belongs : Char → Bool}
    (ends : (∀ char ∈ right.head?, belongs char = false) ∨ ∃ char ∈ left, belongs char = false) :
    (left ++ right).takeWhile belongs = left.takeWhile belongs
      ∧ (left ++ right).dropWhile belongs = left.dropWhile belongs ++ right := by
  induction left with
  | nil =>
    have stops : ∀ char ∈ right.head?, belongs char = false := by simpa using ends
    cases right with
    | nil => simp
    | cons char rest => simp [stops char rfl]
  | cons char rest hypothesis =>
    by_cases belong : belongs char
    · have others := hypothesis (ends.imp_right fun ⟨other, member, noMember⟩ => by
        rcases List.mem_cons.1 member with rfl | inRest
        · rw [belong] at noMember
          contradiction
        · exact ⟨other, inRest, noMember⟩)
      simp [belong, others]
    · simp [belong]

/-- A piece is the same if the text goes on behind it otherwise. -/
theorem takePiece_append_left (kind : PieceKind) {belongs : Char → Bool} (begun : List Char)
    (ends : (∀ char ∈ right.head?, belongs char = false) ∨ ∃ char ∈ left, belongs char = false) :
    takePiece kind belongs begun (left ++ right)
      = ((takePiece kind belongs begun left).1,
        (takePiece kind belongs begun left).2 ++ right) := by
  simp [takePiece, takeWhile_append_left ends]

/-- A number ends at a seam. -/
theorem takeNumber_append (seam : Seam left right) :
    takeNumber (left ++ right) = ((takeNumber left).1, (takeNumber left).2 ++ right) := by
  have noDigit : ∀ char ∈ right.head?, isDigit char = false :=
    fun char head => (seam.continuesNone char head).2
  obtain ⟨whole, behind⟩ := @takeWhile_append_left left right isDigit (.inl noDigit)
  unfold takeNumber
  rw [whole, behind]
  -- A point at the very end of the left part is followed by no digit, in either text.
  rcases left.dropWhile isDigit with _ | ⟨char, _ | ⟨next, rest⟩⟩
  · have noPoint : right.head? ≠ some '.' := seam.head_ne (by decide) (by decide)
    cases right with
    | nil => rfl
    | cons char rest =>
      have other : char ≠ '.' := fun point => noPoint (congrArg some point)
      simp [other]
  · by_cases point : char = '.'
    · subst point
      cases right with
      | nil => rfl
      | cons next rest => simp [noDigit next rfl]
    · simp [point]
  · by_cases point : char = '.'
    · subst point
      have fraction := @takePiece_append_left (next :: rest) right .number isDigit
        (left.takeWhile isDigit ++ ['.']) (.inl noDigit)
      by_cases digit : isDigit next
      · simpa [digit] using fraction
      · simp [digit]
    · simp [point]

/-- A derivative operator that begins in front of a seam ends in front of it, too. -/
theorem Seam.derivative {letter : Char} {after : List Char} (seam : Seam left right)
    (nonempty : left ≠ []) (same : left ++ right = 'd' :: '/' :: 'd' :: letter :: after)
    (isLetter : isLetter letter) :
    ∃ rest, left = 'd' :: '/' :: 'd' :: letter :: rest ∧ after = rest ++ right := by
  have same : left ++ right = ['d', '/', 'd', letter] ++ after := same
  rcases List.append_eq_append_iff.1 same with ⟨between, operator, rfl⟩ | ⟨rest, rfl, rfl⟩
  · cases between with
    | nil => exact ⟨[], by simpa using operator.symm, rfl⟩
    | cons char between =>
      have member : char ∈ ['d', '/', 'd', letter] := by simp [operator]
      have noSlash := seam.head_ne (show '/' ≠ ')' by decide) (by decide)
      have noName := (seam.continuesNone char rfl).1
      have letterName : continuesName letter := by simp [continuesName, startsName, isLetter]
      simp only [List.mem_cons, List.not_mem_nil, or_false] at member
      rcases member with rfl | rfl | rfl | rfl
      · contradiction
      · exact absurd rfl noSlash
      · contradiction
      · rw [letterName] at noName
        contradiction
  · exact ⟨rest, rfl, rfl⟩

/-- A piece that a text begins with is the same if the text is split behind it. -/
theorem takePiece?_append (nonempty : left ≠ []) (seam : Seam left right) :
    takePiece? (left ++ right)
      = (takePiece? left).map fun (piece, rest) => (piece, rest ++ right) := by
  obtain ⟨char, behind, rfl⟩ := List.exists_cons_of_ne_nil nonempty
  by_cases starts : startsName char
  · by_cases derivative : ∃ letter after, char :: behind = 'd' :: '/' :: 'd' :: letter :: after
      ∧ isLetter letter
    · obtain ⟨letter, after, same, isLetter⟩ := derivative
      simp only [same, List.cons_append, takePiece?_derivative isLetter, Option.map_some]
    · have noDerivative (letter : Char) (after : List Char)
          (same : char :: behind = 'd' :: '/' :: 'd' :: letter :: after) :
          isLetter letter = false := by
        rw [← Bool.not_eq_true]
        exact fun isLetter => derivative ⟨letter, after, same, isLetter⟩
      have word := @takePiece_append_left (char :: behind) right .word continuesName []
        (.inl fun other head => (seam.continuesNone other head).1)
      rw [List.cons_append, takePiece?_word starts, takePiece?_word starts noDerivative,
        ← List.cons_append, word]
      · rfl
      · intro letter after same
        rw [← Bool.not_eq_true]
        intro isLetter
        obtain ⟨rest, leftSame, -⟩ := seam.derivative nonempty same isLetter
        exact derivative ⟨letter, rest, leftSame, isLetter⟩
  · have blank := takePiece_append_left .blank [] (seam.endsBlank nonempty)
    have number := takeNumber_append seam
    rw [Bool.not_eq_true] at starts
    simp only [List.cons_append] at blank number
    simp only [List.cons_append, takePiece?, starts, Bool.false_eq_true, if_false, blank, number,
      apply_ite (Option.map _), Option.map_some, Option.map_none]

/-! ## Splitting -/

/-- A text that is cut into pieces and split at a seam is split between two pieces. -/
theorem Cuts.split {pieces : List Piece} (cuts : Cuts (left ++ right) pieces)
    (seam : Seam left right) :
    ∃ leftPieces rightPieces, pieces = leftPieces ++ rightPieces ∧ Cuts left leftPieces
      ∧ Cuts right rightPieces := by
  generalize same : left ++ right = chars at cuts
  induction cuts generalizing left with
  | nil =>
    obtain ⟨rfl, rfl⟩ := List.append_eq_nil_iff.1 same
    exact ⟨[], [], rfl, .nil, .nil⟩
  | @cons chars rest piece pieces taken others hypothesis =>
    subst same
    by_cases nonempty : left = []
    · subst nonempty
      exact ⟨[], piece :: pieces, rfl, .nil, .cons taken others⟩
    · rw [takePiece?_append nonempty seam] at taken
      obtain ⟨⟨first, behind⟩, leftTaken, parts⟩ := Option.map_eq_some_iff.1 taken
      obtain ⟨rfl, rfl⟩ := Prod.mk.inj parts
      obtain ⟨rfl, -, -⟩ := parts_of_takePiece? leftTaken
      obtain ⟨leftPieces, rightPieces, rfl, leftCuts, rightCuts⟩ :=
        hypothesis seam.of_append rfl
      exact ⟨first :: leftPieces, rightPieces, rfl, .cons leftTaken leftCuts, rightCuts⟩

/-- Whether a parenthesis opens next is told by the first part, if none opens behind it. -/
theorem opensNext_append {rightPieces : List Piece} (noOpening : opensNext rightPieces = false)
    (leftPieces : List Piece) : opensNext (leftPieces ++ rightPieces) = opensNext leftPieces := by
  induction leftPieces with
  | nil => exact noOpening
  | cons piece rest hypothesis => simp only [List.cons_append, opensNext, hypothesis]

/-- The words of pieces are those of their parts one after the other, if the second part does not
begin with a parenthesis that the first could have a function in front of. -/
theorem words_append {leftPieces rightPieces : List Piece}
    (noOpening : opensNext rightPieces = false) :
    words (leftPieces ++ rightPieces) = words leftPieces ++ words rightPieces := by
  induction leftPieces with
  | nil => rfl
  | cons piece rest hypothesis =>
    have word_eq : word? piece (rest ++ rightPieces) = word? piece rest := by
      simp only [word?, tokenKind?, nameKind, opensNext_append noOpening]
    rw [List.cons_append, words_cons, words_cons, word_eq, hypothesis, List.append_assoc]

/-- The words of a text that is split at a seam are those of its parts one after the other, if the
second part does not begin with a parenthesis. -/
theorem Scans.split {found rightFound : List Word} (scans : Scans (left ++ right) found)
    (seam : Seam left right) (rightScans : Scans right rightFound)
    (noOpening : rightFound.head? ≠ some .opening) :
    ∃ leftFound, found = leftFound ++ rightFound ∧ Scans left leftFound := by
  obtain ⟨pieces, cuts, rfl⟩ := scans
  obtain ⟨leftPieces, rightPieces, rfl, leftCuts, rightCuts⟩ := cuts.split seam
  obtain rfl : words rightPieces = rightFound := Scans.unique ⟨_, rightCuts, rfl⟩ rightScans
  have opensNot : opensNext rightPieces = false := by
    rw [← Bool.not_eq_true, opensNext_iff]
    exact noOpening
  exact ⟨words leftPieces, words_append opensNot, leftPieces, leftCuts, rfl⟩

/-- The word of the first piece comes off in front of the words of the rest, if it does not depend
on them. -/
theorem Scans.uncons {chars after : List Char} {found : List Word} (scans : Scans chars found)
    (piece : Piece) {word : Word} (taken : takePiece? chars = some (piece, after))
    (isWord : ∀ pieces, word? piece pieces = some word) :
    ∃ others, found = word :: others ∧ Scans after others := by
  obtain ⟨pieces, cuts, rfl⟩ := scans
  cases cuts with
  | nil => contradiction
  | cons taken' others =>
    rw [taken] at taken'
    obtain ⟨rfl, rfl⟩ := Prod.mk.inj (Option.some.inj taken')
    rw [words_cons, isWord]
    exact ⟨_, rfl, _, others, rfl⟩

section First

variable {after : List Char} {found : List Word}

/-- The first word of a text that begins with an opening parenthesis. -/
theorem Scans.of_opening (scans : Scans ('(' :: after) found) :
    ∃ others, found = .opening :: others ∧ Scans after others :=
  scans.uncons ⟨.opening, ['(']⟩ rfl fun _ => rfl

/-- The first word of a text that begins with an integral sign. -/
theorem Scans.of_integralSign (scans : Scans ('∫' :: after) found) :
    ∃ others, found = .integralSign :: others ∧ Scans after others :=
  scans.uncons ⟨.integralSign, ['∫']⟩ rfl fun _ => rfl

/-- The first word of a text that begins with a derivative operator. -/
theorem Scans.of_derivative {letter : Char} (isLetter : isLetter letter)
    (scans : Scans ('d' :: '/' :: 'd' :: letter :: after) found) :
    ∃ others, found = .derivative (String.singleton letter) :: others ∧ Scans after others := by
  refine scans.uncons _ (takePiece?_derivative isLetter after) fun pieces => ?_
  simp [word?, tokenKind?, Token.word, Reader.derivativeLetter]

end First

/-! ## Blanks -/

/-- Separators make no word. -/
theorem Scans.blanks {blanks after : List Char} {found : List Word}
    (separators : ∀ char ∈ blanks, isSeparator char) (ends : EndsBlank after)
    (scans : Scans after found) : Scans (blanks ++ after) found := by
  cases blanks with
  | nil => exact scans
  | cons char rest =>
    obtain ⟨pieces, cuts, rfl⟩ := scans
    have taken := takePiece_append .blank separators ends
    have separator : isSeparator char := separators char List.mem_cons_self
    refine ⟨⟨.blank, char :: rest⟩ :: pieces, .cons ?_ cuts, words_cons _ _⟩
    simp only [List.cons_append, takePiece?, separator, if_true] at taken ⊢
    exact congrArg some taken

/-- The characters of pieces that are neither blanks nor names nor digits nor parentheses. -/
def marks : List Char :=
  ['∫', '/', '.', '+', '-', '*', '^', '%', '=', ',']

/-- Which characters a piece consists of. -/
theorem Fits.cases {piece : Piece} (fits : Fits piece) {char : Char}
    (member : char ∈ piece.chars) :
    (piece.kind = .blank ∧ isSeparator char) ∨ (piece.kind = .opening ∧ char = '(')
      ∨ (piece.kind = .closing ∧ char = ')') ∨ continuesName char ∨ char ∈ marks := by
  obtain ⟨kind, chars⟩ := piece
  cases kind with
  | blank => exact .inl ⟨rfl, fits char member⟩
  | word => exact .inr (.inr (.inr (.inl (continuesName_of_mem fits char member))))
  | number =>
    obtain ⟨decimal, numeral⟩ := fits
    rcases numeral.isDigit_or_point char member with digit | rfl
    · rw [← isDigit_eq] at digit
      simp [continuesName, digit]
    · simp [marks]
  | derivative =>
    obtain ⟨letter, same, isLetter⟩ := fits
    dsimp only at same member
    subst same
    simp only [List.mem_cons, List.not_mem_nil, or_false] at member
    have isD : continuesName 'd' := by decide
    rcases member with rfl | rfl | rfl | rfl
    · simp [isD]
    · simp [marks]
    · simp [isD]
    · simp [continuesName, startsName, isLetter]
  | operator =>
    obtain ⟨symbol, same, isOperator⟩ := fits
    dsimp only at same member
    subst same
    obtain rfl := List.mem_singleton.1 member
    simp [Lexer.isOperator] at isOperator
    rcases isOperator with rfl | rfl | rfl | rfl | rfl | rfl | rfl <;> simp [marks]
  | _ =>
    obtain rfl : chars = _ := fits
    obtain rfl := List.mem_singleton.1 member
    simp [marks]

/-- White space in a piece parts tokens. -/
theorem Fits.isSeparator {piece : Piece} (fits : Fits piece) {char : Char}
    (member : char ∈ piece.chars) (blank : Text.isBlank char) : Lexer.isSeparator char := by
  have noMark : marks.all fun mark => !Text.isBlank mark := by decide
  rcases fits.cases member with ⟨-, separator⟩ | ⟨-, rfl⟩ | ⟨-, rfl⟩ | continues | mark
  · exact separator
  · exact absurd blank (by decide)
  · exact absurd blank (by decide)
  · rw [not_isBlank_of_continuesName continues] at blank
    contradiction
  · have noBlank := List.all_eq_true.1 noMark char mark
    simp [blank] at noBlank

/-- White space in a text that has words parts tokens. -/
theorem Scans.isSeparator {chars : List Char} {found : List Word} (scans : Scans chars found) :
    ∀ char ∈ chars, Text.isBlank char → isSeparator char := by
  obtain ⟨pieces, cuts, -⟩ := scans
  induction cuts with
  | nil => simp
  | cons taken _ hypothesis =>
    obtain ⟨rfl, -, fits⟩ := parts_of_takePiece? taken
    intro char member blank
    rcases List.mem_append.1 member with inPiece | inRest
    · exact fits.isSeparator inPiece blank
    · exact hypothesis char inRest blank

/-! ## Names that begin with an underscore -/

/-- A piece that begins with a separator is blank. -/
theorem kind_of_separator {char : Char} {chars rest : List Char} {piece : Piece}
    (separator : Lexer.isSeparator char) (taken : takePiece? (char :: chars) = some (piece, rest)) :
    piece.kind = .blank := by
  simp only [takePiece?, separator, if_true, Option.some.injEq] at taken
  exact congrArg (fun parts => parts.1.kind) taken.symm

/-- A piece that begins with an underscore is a word. -/
theorem kind_of_underscore {chars rest : List Char} {piece : Piece}
    (taken : takePiece? ('_' :: chars) = some (piece, rest)) : piece.kind = .word := by
  have separator : Lexer.isSeparator '_' = false := by decide
  have starts : startsName '_' = true := by decide
  simp only [takePiece?, separator, starts, Bool.false_eq_true, if_false, if_true,
    show '_' ≠ '∫' by decide] at taken
  exact congrArg (fun parts => parts.1.kind) (Option.some.inj taken.symm)

/-- No function has an underscore in its name. -/
theorem named?_underscore {chars : List Char} (member : '_' ∈ chars) :
    Function.named? (String.ofList chars) = none := by
  rcases found : Function.named? (String.ofList chars) with _ | function
  · rfl
  · have name_eq := congrArg String.toList (Function.named?_eq_some_iff.1 found)
    rw [String.toList_ofList] at name_eq
    rw [← name_eq] at member
    cases function <;> revert member <;> decide

/-- A piece with an underscore makes a name, if it is a word. -/
theorem word?_underscore {chars : List Char} (member : '_' ∈ chars) (following : List Piece) :
    word? ⟨.word, chars⟩ following = some (.name (String.ofList chars)) := by
  have noDifferential : isDifferential chars = false := by
    rw [← Bool.not_eq_true]
    intro differential
    obtain ⟨letter, rfl, isLetter⟩ := letter_of_isDifferential differential
    simp only [List.mem_cons, List.not_mem_nil, or_false] at member
    rcases member with isD | rfl
    · exact absurd isD (by decide)
    · exact absurd isLetter (by decide)
  have kind : nameKind chars following = .name := by
    simp only [nameKind, noDifferential, named?_underscore member, Option.isSome_none,
      Bool.false_and, Bool.false_eq_true, if_false]
  simp only [word?, tokenKind?, kind, Token.word, Option.map_some]

/-- The characters of a name are those of its piece. -/
theorem chars_of_word? {piece : Piece} {following : List Piece} {name : String}
    (isName : word? piece following = some (.name name)) : name.toList = piece.chars := by
  obtain ⟨kind, chars⟩ := piece
  cases kind with
  | word =>
    simp only [word?, tokenKind?, Option.map_some, Option.some.injEq] at isName
    unfold nameKind at isName
    split_ifs at isName <;> simp only [Token.word, reduceCtorEq, Word.name.injEq] at isName
    rw [← isName, String.toList_ofList]
  | _ => simp [word?, tokenKind?, Token.word] at isName

/-- A piece that makes no word is blank. -/
theorem Fits.separators {piece : Piece} {following : List Piece} (fits : Fits piece)
    (noWord : word? piece following = none) : ∀ char ∈ piece.chars, Lexer.isSeparator char := by
  obtain ⟨kind, chars⟩ := piece
  cases kind with
  | blank => exact fits
  | _ => simp [word?, tokenKind?] at noWord

/-- A text begins with an underscore, blanks aside, if and only if its first word is a name that
does. -/
theorem Scans.underscore {chars : List Char} {found : List Word} (scans : Scans chars found) :
    (chars.dropWhile Text.isBlank).head? = some '_'
      ↔ ∃ name, found.head? = some (.name name) ∧ name.toList.head? = some '_' := by
  obtain ⟨pieces, cuts, rfl⟩ := scans
  induction cuts with
  | nil => simp
  | @cons chars rest piece pieces taken cuts hypothesis =>
    obtain ⟨rfl, nonempty, fits⟩ := parts_of_takePiece? taken
    rw [words_cons]
    rcases isWord : word? piece pieces with _ | word
    · -- Only blanks make no word, and they are no white space but separators.
      have separators : ∀ char ∈ piece.chars, Text.isBlank char :=
        fun char member => isBlank_of_isSeparator (fits.separators isWord char member)
      rw [List.dropWhile_append_of_pos separators, hypothesis]
      rfl
    · obtain ⟨char, behind, chars_eq⟩ := List.exists_cons_of_ne_nil nonempty
      rw [chars_eq, List.cons_append] at taken
      have noBlank : Text.isBlank char = false := by
        rw [← Bool.not_eq_true]
        intro blank
        have separator := fits.isSeparator (chars_eq ▸ List.mem_cons_self) blank
        have kind := kind_of_separator separator taken
        rw [word?, tokenKind?, kind] at isWord
        contradiction
      simp only [chars_eq, List.cons_append, List.dropWhile_cons, noBlank, List.head?_cons,
        Option.toList_some, List.nil_append, Bool.false_eq_true, if_false, Option.some.injEq]
      constructor
      · rintro rfl
        have word_eq := @word?_underscore ('_' :: behind) List.mem_cons_self pieces
        rw [← chars_eq, ← kind_of_underscore taken, isWord] at word_eq
        exact ⟨_, Option.some.inj word_eq, by simp [chars_eq]⟩
      · rintro ⟨name, rfl, begins⟩
        rw [chars_of_word? isWord, chars_eq] at begins
        exact Option.some.inj begins

/-! ## Parentheses -/

/-- An opening or a closing parenthesis. -/
def isParen (char : Char) : Bool :=
  char = '(' || char = ')'

/-- The parenthesis that a word is. -/
def parens : Word → List Char
  | .opening => ['(']
  | .closing => [')']
  | _ => []

/-- A character that parts tokens or goes on with a name is no parenthesis. -/
theorem not_isParen {char : Char} (other : isSeparator char ∨ continuesName char) :
    ¬ isParen char := by
  intro paren
  simp only [isParen, Bool.or_eq_true, decide_eq_true_eq] at paren
  rcases paren with rfl | rfl <;> revert other <;> decide

/-- A piece that is neither an opening nor a closing parenthesis has no parentheses. -/
theorem Fits.not_isParen {piece : Piece} (fits : Fits piece) (noOpening : piece.kind ≠ .opening)
    (noClosing : piece.kind ≠ .closing) : ∀ char ∈ piece.chars, ¬ isParen char := by
  intro char member
  have noMark : marks.all fun mark => !isParen mark := by decide
  rcases fits.cases member with ⟨-, separator⟩ | ⟨isOpening, -⟩ | ⟨isClosing, -⟩ | continues | mark
  · exact Lexer.not_isParen (.inl separator)
  · exact absurd isOpening noOpening
  · exact absurd isClosing noClosing
  · exact Lexer.not_isParen (.inr continues)
  · simpa using List.all_eq_true.1 noMark char mark

/-- A piece has the parentheses of its word. -/
theorem Fits.filter_isParen {piece : Piece} (fits : Fits piece) (following : List Piece) :
    piece.chars.filter isParen = (word? piece following).toList.flatMap parens := by
  obtain ⟨kind, chars⟩ := piece
  cases kind with
  | opening | closing =>
    obtain rfl : chars = _ := fits
    rfl
  | word =>
    have noParen :
        parens (Token.word ⟨nameKind chars following, String.ofList chars, ⟨0, 0⟩⟩) = [] := by
      unfold nameKind
      split_ifs <;> rfl
    rw [List.filter_eq_nil_iff.2 (fits.not_isParen (by simp) (by simp))]
    simp [word?, tokenKind?, noParen]
  | _ =>
    rw [List.filter_eq_nil_iff.2 (fits.not_isParen (by simp) (by simp))]
    rfl

/-- A text has the parentheses of its words. -/
theorem Scans.filter_isParen {chars : List Char} {found : List Word} (scans : Scans chars found) :
    chars.filter isParen = found.flatMap parens := by
  obtain ⟨pieces, cuts, rfl⟩ := scans
  induction cuts with
  | nil => rfl
  | cons taken _ hypothesis =>
    obtain ⟨rfl, -, fits⟩ := parts_of_takePiece? taken
    rw [List.filter_append, words_cons, List.flatMap_append, hypothesis, fits.filter_isParen]

/-- A piece that makes an opening parenthesis is one. -/
theorem Fits.chars_of_opening {piece : Piece} {following : List Piece} (fits : Fits piece)
    (isOpening : word? piece following = some .opening) : piece.chars = ['('] := by
  have paren : '(' ∈ piece.chars.filter isParen := by
    rw [fits.filter_isParen following, isOpening]
    decide
  have noSeparator : ¬ Lexer.isSeparator '(' := by decide
  have noMark : '(' ∉ marks := by decide
  rcases fits.cases (List.mem_filter.1 paren).1 with
    ⟨-, separator⟩ | ⟨kind, -⟩ | ⟨-, closing⟩ | continues | mark
  · exact absurd separator noSeparator
  · simpa only [Fits, kind] using fits
  · exact absurd closing (by decide)
  · exact absurd continues (by decide)
  · exact absurd mark noMark

/-- A text whose first word is an opening parenthesis begins with it, or with a blank. -/
theorem Scans.head_of_opening {char : Char} {rest : List Char} {found : List Word}
    (scans : Scans (char :: rest) (.opening :: found)) : char = '(' ∨ Lexer.isSeparator char := by
  obtain ⟨pieces, cuts, words_eq⟩ := scans
  cases cuts with
  | @cons _ _ piece pieces taken _ =>
    obtain ⟨append, nonempty, fits⟩ := parts_of_takePiece? taken
    obtain ⟨first, behind, chars_eq⟩ := List.exists_cons_of_ne_nil nonempty
    rw [chars_eq] at append
    obtain rfl := (List.cons.inj append).1
    rw [words_cons] at words_eq
    rcases isWord : word? piece pieces with _ | word
    · exact .inr (fits.separators isWord char (by simp [chars_eq]))
    · rw [isWord] at words_eq
      obtain rfl := (List.cons.inj words_eq).1
      rw [fits.chars_of_opening isWord] at chars_eq
      exact .inl (List.cons.inj chars_eq).1.symm

end Workings.Lexer
