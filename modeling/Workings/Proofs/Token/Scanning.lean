import Workings.Expr.Literal
import Workings.Proofs.Expr.Grammar
import Workings.Proofs.Number.Writing

/-!
# Which words a text has

Where the pieces of a text are cut does not depend on how many may be cut, and what the words are
does not depend on where the text begins. So a text has words, if it has any, and they are told by
what its first piece is and by the words of the rest.
-/

namespace Workings

namespace Lexer

/-! ## From pieces to words -/

/-- The words that pieces make. -/
def words (pieces : List Piece) : List Word :=
  (tokens 0 none pieces).map Token.word

/-- The word that a piece makes in front of the given ones; blanks make none. -/
def word? (piece : Piece) (following : List Piece) : Option Word :=
  (tokenKind? piece following).map fun kind =>
    Token.word ⟨kind, String.ofList piece.chars, ⟨0, 0⟩⟩

/-- Where a text begins does not count for its words. -/
theorem map_word_tokens (position : Nat) (joint : Option Nat) (pieces : List Piece) :
    (tokens position joint pieces).map Token.word = words pieces := by
  unfold words
  induction pieces generalizing position joint with
  | nil => rfl
  | cons piece rest hypothesis =>
    simp only [tokens]
    split
    · rw [hypothesis, ← hypothesis (0 + byteLength piece.chars) none]
    · rw [List.map_cons, List.map_cons, hypothesis, ← hypothesis (0 + byteLength piece.chars)]
      rfl

/-- The word of the first piece stands in front of the words of the others. -/
theorem words_cons (piece : Piece) (rest : List Piece) :
    words (piece :: rest) = (word? piece rest).toList ++ words rest := by
  unfold words word?
  simp only [tokens]
  cases tokenKind? piece rest with
  | none => exact map_word_tokens _ _ rest
  | some kind =>
    rw [List.map_cons, map_word_tokens]
    rfl

/-- Pieces make no words if there are none. -/
@[simp] theorem words_nil : words [] = [] :=
  rfl

/-- A parenthesis opens next if it is the first word. -/
theorem opensNext_iff {pieces : List Piece} :
    opensNext pieces = true ↔ (words pieces).head? = some .opening := by
  induction pieces with
  | nil => simp [opensNext]
  | cons piece rest hypothesis =>
    obtain ⟨kind, chars⟩ := piece
    rw [words_cons]
    cases kind with
    | word =>
      simp only [opensNext, word?, tokenKind?, nameKind]
      by_cases differential : isDifferential chars
      · simp [differential, Token.word]
      · by_cases function : (Function.named? (String.ofList chars)).isSome && opensNext rest
        · simp [differential, function, Token.word]
        · simp [differential, function, Token.word]
    | _ => simp [opensNext, word?, tokenKind?, Token.word, hypothesis]

/-! ## From texts to pieces -/

/-- A text and all the pieces it is cut into. -/
inductive Cuts : List Char → List Piece → Prop where
  | nil : Cuts [] []
  | cons {chars rest : List Char} {piece : Piece} {pieces : List Piece}
      (taken : takePiece? chars = some (piece, rest)) (others : Cuts rest pieces) :
      Cuts chars (piece :: pieces)

/-- The lexer's digits are the decimal digits. -/
theorem isDigit_eq : isDigit = Char.isDigit := by
  funext char
  simp only [isDigit, Char.isDigit, Char.le_def]

/-- What is known of the characters of a piece. -/
def Fits (piece : Piece) : Prop :=
  match piece.kind with
  | .blank => ∀ char ∈ piece.chars, isSeparator char
  | .integralSign => piece.chars = ['∫']
  | .derivative => ∃ letter, piece.chars = ['d', '/', 'd', letter] ∧ isLetter letter
  | .word => Expr.isIdentifier piece.chars
  | .number => ∃ decimal, Number.Numeral piece.chars decimal
  | .operator => ∃ char, piece.chars = [char] ∧ isOperator char
  | .opening => piece.chars = ['(']
  | .closing => piece.chars = [')']
  | .comma => piece.chars = [',']

/-- A piece stands at the beginning of a text, and a rest behind it. -/
structure Parts (chars : List Char) (piece : Piece) (rest : List Char) : Prop where
  append : chars = piece.chars ++ rest
  nonempty : piece.chars ≠ []
  fits : Fits piece

/-- The digits at the beginning of a text are digits. -/
theorem isDigit_of_mem_takeWhile (chars : List Char) :
    ∀ char ∈ chars.takeWhile isDigit, char.isDigit := by
  intro char member
  rw [← isDigit_eq]
  exact List.all_eq_true.1 List.all_takeWhile char member

/-- A number that is taken off a text that begins with a digit. -/
theorem parts_takeNumber {char : Char} {rest : List Char} (digit : isDigit char) :
    Parts (char :: rest) (takeNumber (char :: rest)).1 (takeNumber (char :: rest)).2 := by
  have whole_append := List.takeWhile_append_dropWhile (p := isDigit) (l := char :: rest)
  have nonempty : (char :: rest).takeWhile isDigit ≠ [] := by simp [digit]
  have wholeDigits := isDigit_of_mem_takeWhile (char :: rest)
  unfold takeNumber
  dsimp only
  split
  · rename_i next behind drop_eq
    by_cases nextDigit : isDigit next
    · have fractionNonempty : (next :: behind).takeWhile isDigit ≠ [] := by simp [nextDigit]
      have fractionDigits := isDigit_of_mem_takeWhile (next :: behind)
      have numeral := Number.Numeral.point wholeDigits fractionDigits nonempty fractionNonempty
      rw [if_pos nextDigit]
      refine ⟨?_, by simp [takePiece], _, by simpa [takePiece] using numeral⟩
      rw [drop_eq] at whole_append
      simp only [takePiece, List.append_assoc, List.takeWhile_append_dropWhile]
      exact whole_append.symm
    · rw [if_neg nextDigit, ← drop_eq]
      exact ⟨whole_append.symm, nonempty, _, .whole wholeDigits nonempty⟩
  · exact ⟨whole_append.symm, nonempty, _, .whole wholeDigits nonempty⟩

/-- What a piece consists of that begins with a character and goes on with others. -/
theorem parts_takePiece {kind : PieceKind} {belongs : Char → Bool} {char : Char}
    {rest : List Char} (belong : belongs char)
    (fits : Fits (takePiece kind belongs [] (char :: rest)).1) :
    Parts (char :: rest) (takePiece kind belongs [] (char :: rest)).1
      (takePiece kind belongs [] (char :: rest)).2 :=
  ⟨by simp [takePiece], by simp [takePiece, belong], fits⟩

/-- The longest piece of characters that may go on with a name is a name. -/
theorem fits_takePiece_word {char : Char} {rest : List Char} (starts : startsName char) :
    Fits (takePiece .word continuesName [] (char :: rest)).1 := by
  have continues : continuesName char := by simp [continuesName, starts]
  simp [Fits, takePiece, continues, Expr.isIdentifier, starts]

/-- A piece that is taken off. -/
theorem parts_of_takePiece? {chars rest : List Char} {piece : Piece}
    (taken : takePiece? chars = some (piece, rest)) : Parts chars piece rest := by
  have word {char : Char} {behind : List Char} (starts : startsName char) :
      Parts (char :: behind) (takePiece .word continuesName [] (char :: behind)).1
        (takePiece .word continuesName [] (char :: behind)).2 :=
    parts_takePiece (by simp [continuesName, starts]) (fits_takePiece_word starts)
  revert taken
  fun_cases takePiece? chars
  all_goals
    intro taken
    -- Nothing is taken in the first case and in the last one.
    first | contradiction | obtain ⟨rfl, rfl⟩ := Prod.mk.inj (Option.some.inj taken)
  case case2 separator =>
    refine parts_takePiece separator fun other member => ?_
    exact List.all_eq_true.1 List.all_takeWhile other (by simpa [takePiece] using member)
  case case3 => exact ⟨rfl, by simp, rfl⟩
  case case4 letter _ isLetter _ _ _ => exact ⟨rfl, by simp, letter, rfl, isLetter⟩
  case case5 starts => exact word starts
  case case6 starts _ => exact word starts
  case case7 digit => exact parts_takeNumber digit
  case case8 operator => exact ⟨rfl, by simp, _, rfl, operator⟩
  case case9 | case10 | case11 => exact ⟨rfl, by simp, rfl⟩

/-- Whatever is cut into pieces can be cut as often as it has characters. -/
theorem Cuts.cut_eq {chars : List Char} {pieces : List Piece} (cuts : Cuts chars pieces)
    {count : Nat} (enough : chars.length ≤ count) : cut count chars = (pieces, []) := by
  induction cuts generalizing count with
  | nil => cases count <;> rfl
  | @cons chars rest piece pieces taken _ hypothesis =>
    obtain ⟨rfl, nonempty, -⟩ := parts_of_takePiece? taken
    have positive := List.length_pos_iff.2 nonempty
    rw [List.length_append] at enough
    obtain ⟨count, rfl⟩ := Nat.exists_eq_succ_of_ne_zero (n := count) (by omega)
    simp only [cut, taken, hypothesis (show rest.length ≤ count by omega)]

/-- A text of which nothing is left was cut into pieces. -/
theorem cuts_of_cut {count : Nat} {chars : List Char} {pieces : List Piece}
    (all : cut count chars = (pieces, [])) : Cuts chars pieces := by
  induction count generalizing chars pieces with
  | zero =>
    obtain ⟨rfl, rfl⟩ := Prod.mk.inj all
    exact .nil
  | succ count hypothesis =>
    simp only [cut] at all
    split at all
    · obtain ⟨rfl, rfl⟩ := Prod.mk.inj all
      exact .nil
    · rename_i piece rest taken
      obtain ⟨rfl, unread⟩ := Prod.mk.inj all
      exact .cons taken (hypothesis (Prod.ext rfl unread))

/-! ## From texts to words -/

/-- A text and all its words. -/
def Scans (chars : List Char) (found : List Word) : Prop :=
  ∃ pieces, Cuts chars pieces ∧ words pieces = found

/-- A text is cut into pieces in at most one way. -/
theorem Cuts.unique {chars : List Char} {left right : List Piece} (leftCuts : Cuts chars left)
    (rightCuts : Cuts chars right) : left = right :=
  (Prod.mk.inj ((leftCuts.cut_eq (Nat.le_refl _)).symm.trans (rightCuts.cut_eq (Nat.le_refl _)))).1

/-- A text has at most one list of words. -/
theorem Scans.unique {chars : List Char} {left right : List Word} (leftScans : Scans chars left)
    (rightScans : Scans chars right) : left = right := by
  obtain ⟨leftPieces, leftCuts, rfl⟩ := leftScans
  obtain ⟨rightPieces, rightCuts, rfl⟩ := rightScans
  rw [leftCuts.unique rightCuts]

/-- The tokens of a text are told by its pieces. -/
theorem scan?_eq_ok_iff {position : Nat} {chars : List Char} {tokens : List Token} :
    Token.scan? position chars = .ok tokens
      ↔ ∃ pieces, Cuts chars pieces ∧ Lexer.tokens position none pieces = tokens := by
  unfold Token.scan? pieces
  constructor
  · intro scanned
    split at scanned
    rename_i pieces unread cut_eq
    cases unread with
    | nil => exact ⟨pieces, cuts_of_cut cut_eq, Except.ok.inj scanned⟩
    | cons => contradiction
  · rintro ⟨pieces, cuts, rfl⟩
    rw [cuts.cut_eq (Nat.le_refl _)]

/-- The words of a text are those of its tokens. -/
theorem scans_iff {position : Nat} {chars : List Char} {found : List Word} :
    Scans chars found
      ↔ ∃ tokens, Token.scan? position chars = .ok tokens ∧ tokens.map Token.word = found := by
  constructor
  · rintro ⟨pieces, cuts, rfl⟩
    exact ⟨_, scan?_eq_ok_iff.2 ⟨pieces, cuts, rfl⟩, map_word_tokens _ _ pieces⟩
  · rintro ⟨tokens, scanned, rfl⟩
    obtain ⟨pieces, cuts, rfl⟩ := scan?_eq_ok_iff.1 scanned
    exact ⟨pieces, cuts, (map_word_tokens _ _ pieces).symm⟩

/-- A word as it can stand in a text. -/
def Lexical : Word → Prop
  | .number lexeme => ∃ decimal, Number.Numeral lexeme.toList decimal
  | .name name => Expr.isIdentifier name.toList ∧ isDifferential name.toList = false
  | .function name => (Function.named? name).isSome
  | .derivative letter | .differential letter =>
    ∃ char, isLetter char ∧ letter = String.singleton char
  | .operator _ | .opening | .closing | .comma | .integralSign => True

/-- The letters of differentials. -/
theorem letter_of_isDifferential {chars : List Char} (differential : isDifferential chars) :
    ∃ letter, chars = ['d', letter] ∧ isLetter letter := by
  unfold isDifferential at differential
  split at differential
  · exact ⟨_, rfl, differential⟩
  · contradiction

/-- The word of a name is one that can stand in a text, whatever kind of name it is. -/
theorem lexical_name {chars : List Char} (identifier : Expr.isIdentifier chars)
    (following : List Piece) (span : Span) :
    Lexical (Token.word ⟨nameKind chars following, String.ofList chars, span⟩) := by
  by_cases differential : isDifferential chars
  · obtain ⟨letter, rfl, isLetter⟩ := letter_of_isDifferential differential
    have kind : nameKind ['d', letter] following = .differential := if_pos differential
    rw [kind]
    exact ⟨letter, isLetter, by simp [Reader.differentialLetter]⟩
  · by_cases function : (Function.named? (String.ofList chars)).isSome && opensNext following
    · have kind : nameKind chars following = .function := by
        rw [nameKind, if_neg differential, if_pos function]
      obtain ⟨named, -⟩ := Bool.and_eq_true_iff.1 function
      rw [kind]
      simp only [Token.word, Lexical, named]
    · have kind : nameKind chars following = .name := by
        rw [nameKind, if_neg differential, if_neg function]
      rw [kind]
      simp only [Token.word, Lexical, String.toList_ofList]
      exact ⟨identifier, Bool.not_eq_true _ ▸ differential⟩

/-- The word of a piece is one that can stand in a text. -/
theorem lexical_of_word? {piece : Piece} {following : List Piece} {word : Word}
    (fits : Fits piece) (isWord : word? piece following = some word) : Lexical word := by
  obtain ⟨kind, chars⟩ := piece
  cases kind with
  | blank => contradiction
  | word =>
    obtain rfl := Option.some.inj isWord
    exact lexical_name fits following ⟨0, 0⟩
  | number =>
    obtain rfl := Option.some.inj isWord
    obtain ⟨decimal, numeral⟩ := fits
    exact ⟨decimal, by simpa [Token.word] using numeral⟩
  | derivative =>
    obtain rfl := Option.some.inj isWord
    obtain ⟨letter, rfl, isLetter⟩ := fits
    exact ⟨letter, isLetter, by simp [Reader.derivativeLetter]⟩
  | _ =>
    obtain rfl := Option.some.inj isWord
    trivial

/-- The words of a text can stand in a text. -/
theorem Scans.lexical {chars : List Char} {found : List Word} (scans : Scans chars found) :
    ∀ word ∈ found, Lexical word := by
  obtain ⟨pieces, cuts, rfl⟩ := scans
  induction cuts with
  | nil => simp
  | cons taken _ hypothesis =>
    intro word member
    rw [words_cons, List.mem_append, Option.mem_toList] at member
    rcases member with isFirst | isOther
    · exact lexical_of_word? (parts_of_takePiece? taken).fits isFirst
    · exact hypothesis word isOther

end Lexer

end Workings
