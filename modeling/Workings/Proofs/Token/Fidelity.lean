import Workings.Proofs.Token.Longest
import Workings.Proofs.Token.Standing

/-!
# What tokens keep of a text

Nothing but separators is lost between a text and its tokens, and nothing is made up. Every token is
the text of its region, with the separators in front dropped, and no piece that begins where it does
is longer. The kind of a name is told by its letters and by the next character behind it that is no
separator. All this is read off the piece that a token comes from, of which there is one for every
token.
-/

namespace Workings

open Lexer

/-- A parenthesis opens behind a position of a text, separators aside. -/
def OpensBehind (chars : List Char) (position : Nat) : Prop :=
  ∃ before behind, chars = before ++ behind ∧ position = byteLength before
    ∧ (behind.dropWhile isSeparator).head? = some '('

/-- The lexeme of a token ends where its region does, and no piece that begins where the lexeme does
is longer. -/
def Token.IsLongest (chars : List Char) (token : Token) : Prop :=
  ∃ before behind, chars = before ++ (token.lexeme.toList ++ behind)
    ∧ token.span.stop = byteLength (before ++ token.lexeme.toList)
    ∧ ∀ piece rest, Parts (token.lexeme.toList ++ behind) piece rest →
        piece.chars.length ≤ token.lexeme.toList.length

/-- What a token keeps of a text, in front of other tokens. -/
structure Token.Faithful (chars : List Char) (token : Token) (others : List Token) : Prop where
  /-- It begins and ends between characters, some characters apart. -/
  region : token.span.IsFilled chars
  /-- No token behind it begins before it ends. -/
  apart : ∀ other ∈ others, token.span.stop ≤ other.span.start
  /-- Its lexeme is cut out of the text, and the separators in front are dropped. -/
  lexeme : ∃ part, token.span.slice chars = .ok part
    ∧ token.lexeme.toList = part.dropWhile isSeparator
  longest : token.IsLongest chars
  /-- It is a differential if it is the letter `d` and one further letter. -/
  differential_iff : token.kind = .differential
    ↔ ∃ letter, isLetter letter ∧ token.lexeme.toList = ['d', letter]
  /-- It is a function if it has the name of one and a parenthesis opens next. -/
  function_iff : token.kind = .function
    ↔ (Function.named? token.lexeme).isSome ∧ OpensBehind chars token.span.stop
  /-- Every other name is nothing but a name. -/
  name_iff : token.kind = .name
    ↔ Expr.isIdentifier token.lexeme.toList
      ∧ token.kind ≠ .differential ∧ token.kind ≠ .function
  /-- The parenthesis behind a function is the next token and is joined to it. -/
  opening : token.kind = .function → ∃ paren rest, others = paren :: rest
    ∧ paren.kind = .opening ∧ paren.span.start = token.span.stop

namespace Lexer

/-! ## What pieces tell -/

/-- A text is split at a position in one way only. -/
theorem split_unique {before behind front rest : List Char}
    (same : before ++ behind = front ++ rest) (length_eq : byteLength before = byteLength front) :
    before = front ∧ behind = rest := by
  have split := splitBytes_append 0 before behind
  rw [same, length_eq, splitBytes_append] at split
  exact (Prod.mk.inj (Except.ok.inj split)).imp Eq.symm Eq.symm

/-- The characters of a blank piece are separators. -/
theorem Fits.isSeparator_of_blank {piece : Piece} (fits : Fits piece) (blank : piece.kind = .blank) :
    ∀ char ∈ piece.chars, Lexer.isSeparator char := by
  unfold Fits at fits
  rwa [blank] at fits

/-- There are no separators in a piece that is not blank. -/
theorem Fits.not_isSeparator {piece : Piece} (fits : Fits piece) (noBlank : piece.kind ≠ .blank) :
    ∀ char ∈ piece.chars, Lexer.isSeparator char = false := by
  have noMark : marks.all fun mark => !Lexer.isSeparator mark := by decide
  intro char member
  rcases fits.cases member with ⟨isBlank, -⟩ | ⟨-, rfl⟩ | ⟨-, rfl⟩ | continues | mark
  · exact absurd isBlank noBlank
  · decide
  · decide
  · rw [← Bool.not_eq_true]
    intro separator
    rw [(continuesNone_of_isSeparator separator).1] at continues
    contradiction
  · simpa using List.all_eq_true.1 noMark char mark

/-- The pieces that are names are the words. -/
theorem Fits.isIdentifier_iff {piece : Piece} (fits : Fits piece) (nonempty : piece.chars ≠ []) :
    Expr.isIdentifier piece.chars ↔ piece.kind = .word := by
  obtain ⟨kind, chars⟩ := piece
  constructor
  · intro identifier
    obtain ⟨char, rest, rfl⟩ := List.exists_cons_of_ne_nil nonempty
    have starts : startsName char := (Bool.and_eq_true_iff.1 identifier).1
    cases kind with
    | word => rfl
    | blank =>
      have separator : Lexer.isSeparator char := fits char List.mem_cons_self
      rw [not_isSeparator_of_startsName starts] at separator
      contradiction
    | number =>
      obtain ⟨decimal, numeral⟩ := fits
      obtain ⟨first, others, same, digit⟩ := numeral.head
      obtain ⟨rfl, rfl⟩ := List.cons.inj same
      rw [← isDigit_eq] at digit
      rw [(begins_of_isDigit digit).2.2] at starts
      contradiction
    | derivative =>
      obtain ⟨letter, same, -⟩ := fits
      dsimp only at same identifier
      rw [same] at identifier
      exact absurd (continuesName_of_mem identifier '/' (by simp)) (by decide)
    | operator =>
      obtain ⟨symbol, same, isOperator⟩ := fits
      obtain ⟨rfl, -⟩ := List.cons.inj same
      have noName : "+-*/^%=".toList.all fun symbol => !startsName symbol := by decide
      have noStart := List.all_eq_true.1 noName char (List.contains_iff_mem.1 isOperator)
      simp [starts] at noStart
    | _ =>
      obtain ⟨rfl, -⟩ := List.cons.inj (show char :: rest = [_] from fits)
      exact absurd starts (by decide)
  · rintro rfl
    exact fits

/-- A differential is the letter `d` and one further letter. -/
theorem isDifferential_iff (chars : List Char) :
    isDifferential chars ↔ ∃ letter, isLetter letter ∧ chars = ['d', letter] := by
  constructor
  · intro differential
    obtain ⟨letter, same, letters⟩ := letter_of_isDifferential differential
    exact ⟨letter, letters, same⟩
  · rintro ⟨letter, letters, rfl⟩
    exact letters

/-- Differentials are names. -/
theorem isIdentifier_of_isDifferential {chars : List Char} (differential : isDifferential chars) :
    Expr.isIdentifier chars := by
  obtain ⟨letter, letters, rfl⟩ := (isDifferential_iff chars).1 differential
  have isLetter : isLetter 'd' := by decide
  simp [Expr.isIdentifier, continuesName, startsName, isLetter, letters]

/-- The kind of a token tells names from everything else, and what kind of name they are. -/
theorem names_of_tokenKind? {piece : Piece} {following : List Piece} {kind : TokenKind}
    (nonempty : piece.chars ≠ []) (fits : Fits piece)
    (isKind : tokenKind? piece following = some kind) :
    (kind = .differential ↔ isDifferential piece.chars)
      ∧ (kind = .function
        ↔ (Function.named? (String.ofList piece.chars)).isSome ∧ opensNext following)
      ∧ (kind = .name
        ↔ Expr.isIdentifier piece.chars ∧ kind ≠ .differential ∧ kind ≠ .function) := by
  have isIdentifier_iff := fits.isIdentifier_iff nonempty
  have noBoth (differential : isDifferential piece.chars) :
      (Function.named? (String.ofList piece.chars)).isSome = false := by
    rw [← Bool.not_eq_true]
    intro named
    have noDifferential := (isIdentifier_of_named? named).2
    rw [String.toList_ofList, differential] at noDifferential
    contradiction
  by_cases isWord : piece.kind = .word
  · have identifier := isIdentifier_iff.2 isWord
    simp only [tokenKind?, isWord, Option.some.injEq] at isKind
    subst isKind
    unfold nameKind
    split_ifs with differential function
    · simp [differential, noBoth differential]
    · simpa [differential] using function
    · simpa [differential, identifier] using function
  · have noIdentifier := mt isIdentifier_iff.1 isWord
    have noDifferential := mt isIdentifier_of_isDifferential noIdentifier
    have noFunction : (Function.named? (String.ofList piece.chars)).isSome ≠ true := by
      intro named
      have identifier := (isIdentifier_of_named? named).1
      rw [String.toList_ofList] at identifier
      exact noIdentifier identifier
    have otherKind : kind ≠ .differential ∧ kind ≠ .function ∧ kind ≠ .name := by
      obtain ⟨pieceKind, chars⟩ := piece
      cases pieceKind with
      | word | blank => contradiction
      | _ =>
        rw [← Option.some.inj isKind]
        decide
    simp [otherKind, noIdentifier, noDifferential, noFunction]

/-- A parenthesis opens next among the pieces of a text if one does among its characters. -/
theorem Cuts.opensNext_iff {chars : List Char} {pieces : List Piece} (cuts : Cuts chars pieces) :
    opensNext pieces ↔ (chars.dropWhile Lexer.isSeparator).head? = some '(' := by
  induction cuts with
  | nil => simp [opensNext]
  | @cons _ rest piece pieces taken _ hypothesis =>
    obtain ⟨rfl, nonempty, fits⟩ := parts_of_takePiece? taken
    by_cases blank : piece.kind = .blank
    · rw [List.dropWhile_append_of_pos (fits.isSeparator_of_blank blank), ← hypothesis]
      simp [opensNext, blank]
    · obtain ⟨char, more, chars_eq⟩ := List.exists_cons_of_ne_nil nonempty
      have member : char ∈ piece.chars := chars_eq ▸ List.mem_cons_self
      have noSeparator := fits.not_isSeparator blank char member
      have isOpening : opensNext (piece :: pieces) ↔ piece.kind = .opening := by
        obtain ⟨kind, chars⟩ := piece
        cases kind <;> simp_all [opensNext]
      rw [isOpening, chars_eq, List.cons_append, List.dropWhile_cons_of_neg (by simp [noSeparator]),
        List.head?_cons, Option.some.injEq]
      constructor
      · intro opening
        have parenthesis : piece.chars = ['('] := by simpa [Fits, opening] using fits
        exact (List.cons.inj (chars_eq.symm.trans parenthesis)).1
      · rintro rfl
        have noName : continuesName '(' = false := by decide
        simpa [blank, noName, marks] using fits.cases member

/-- Where a parenthesis opens next, it is the next token, and begins at the joint. -/
theorem tokens_of_opensNext {pieces : List Piece} (opens : opensNext pieces)
    (position place : Nat) :
    ∃ paren rest, tokens position (some place) pieces = paren :: rest
      ∧ paren.kind = .opening ∧ paren.span.start = place := by
  induction pieces generalizing position with
  | nil => contradiction
  | cons piece rest hypothesis =>
    obtain ⟨kind, chars⟩ := piece
    cases kind with
    | blank => exact hypothesis opens _
    | opening => exact ⟨_, _, rfl, rfl, rfl⟩
    | _ => contradiction

/-- The lexemes of the tokens of a text are its characters, but for the separators. -/
theorem Cuts.lexemes_eq {chars : List Char} {pieces : List Piece} (cuts : Cuts chars pieces)
    (position : Nat) (joint : Option Nat) :
    (tokens position joint pieces).flatMap (·.lexeme.toList)
      = chars.filter fun char => !Lexer.isSeparator char := by
  induction cuts generalizing position joint with
  | nil => rfl
  | @cons _ rest piece pieces taken _ hypothesis =>
    obtain ⟨rfl, -, fits⟩ := parts_of_takePiece? taken
    unfold tokens
    dsimp only
    rw [List.filter_append]
    split
    · rename_i noToken
      have blank := kind_of_tokenKind?_eq_none noToken
      have nothing : piece.chars.filter (fun char => !Lexer.isSeparator char) = [] := by
        simpa using fits.isSeparator_of_blank blank
      rw [nothing, hypothesis]
      rfl
    · rename_i kind isKind
      have noBlank : piece.kind ≠ .blank := by
        intro blank
        simp [tokenKind?, blank] at isKind
      have everything : piece.chars.filter (fun char => !Lexer.isSeparator char) = piece.chars := by
        simpa using fits.not_isSeparator noBlank
      rw [everything, List.flatMap_cons, hypothesis]
      simp

/-! ## Where tokens come from -/

/-- Where a token comes from: a piece that stands behind some separators, which the parenthesis
behind the name of a function takes in, and in front of the pieces of which the other tokens are
made. -/
structure Origin (chars : List Char) (token : Token) (others : List Token)
    (front gap rest : List Char) (piece : Piece) (following : List Piece) : Prop where
  chars_eq : chars = front ++ (gap ++ (piece.chars ++ rest))
  separators : ∀ char ∈ gap, Lexer.isSeparator char
  taken : takePiece? (piece.chars ++ rest) = some (piece, rest)
  cuts : Cuts rest following
  kind : tokenKind? piece following = some token.kind
  lexeme : token.lexeme = String.ofList piece.chars
  start : token.span.start = byteLength front
  stop : token.span.stop = byteLength (front ++ (gap ++ piece.chars))
  others_eq : others = tokens token.span.stop
    (if token.kind = .function then some token.span.stop else none) following

/-- Every token of a text comes from one of its pieces. -/
theorem Cuts.exists_origin {chars part : List Char} {pieces : List Piece} (cuts : Cuts part pieces)
    {front gap : List Char} (chars_eq : chars = front ++ (gap ++ part))
    (separators : ∀ char ∈ gap, Lexer.isSeparator char) {position : Nat} {joint : Option Nat}
    (position_eq : position = byteLength (front ++ gap))
    (joined : joint.getD position = byteLength front) {before after : List Token} {token : Token}
    (split : tokens position joint pieces = before ++ token :: after) :
    ∃ front gap rest piece following, Origin chars token after front gap rest piece following := by
  induction cuts generalizing front gap position joint before with
  | nil => simp [tokens] at split
  | @cons _ rest piece pieces taken others hypothesis =>
    obtain ⟨rfl, -, fits⟩ := parts_of_takePiece? taken
    have behind : chars = front ++ (gap ++ piece.chars) ++ ([] ++ rest) := by simp [chars_eq]
    have stop_eq : position + byteLength piece.chars
        = byteLength (front ++ (gap ++ piece.chars)) := by
      simp [position_eq, Nat.add_assoc]
    unfold tokens at split
    dsimp only at split
    cases isKind : tokenKind? piece pieces with
    | none =>
      have blank := kind_of_tokenKind?_eq_none isKind
      have areSeparators := fits.isSeparator_of_blank blank
      rw [isKind] at split
      cases joint with
      | none =>
        exact hypothesis behind (by simp) (by simpa using stop_eq) (by simpa using stop_eq) split
      | some place =>
        -- The separators are taken in.
        have longer : ∀ char ∈ gap ++ piece.chars, Lexer.isSeparator char := by
          intro char member
          exact (List.mem_append.1 member).elim (separators char) (areSeparators char)
        exact hypothesis (by simp [chars_eq]) longer stop_eq joined split
    | some kind =>
      rw [isKind] at split
      dsimp only at split
      rcases List.cons_eq_append_iff.1 split with ⟨rfl, same⟩ | ⟨earlier, rfl, later⟩
      · obtain ⟨rfl, rfl⟩ := List.cons.inj same
        exact ⟨front, gap, rest, piece, pieces, chars_eq, separators, taken, others, isKind, rfl,
          joined, stop_eq, rfl⟩
      · refine hypothesis behind (by simp) (by simpa using stop_eq) ?_ later
        split <;> simpa using stop_eq

namespace Origin

variable {chars front gap rest : List Char} {token : Token} {others : List Token} {piece : Piece}
  {following : List Piece} (origin : Origin chars token others front gap rest piece following)

include origin

/-- The characters of a token are those of its piece. -/
theorem toList_lexeme : token.lexeme.toList = piece.chars := by
  rw [origin.lexeme, String.toList_ofList]

/-- The piece of a token is not blank. -/
theorem not_blank : piece.kind ≠ .blank := by
  intro blank
  have kind := origin.kind
  simp [tokenKind?, blank] at kind

/-- The text that a token takes up is cut at the token and behind it. -/
theorem chars_eq_behind : chars = front ++ (gap ++ piece.chars) ++ rest := by
  simp [origin.chars_eq]

/-- A token begins and ends between characters, some characters apart. -/
theorem region : token.span.IsFilled chars where
  starts := ⟨front, _, origin.chars_eq, origin.start⟩
  stops := ⟨_, rest, origin.chars_eq_behind, origin.stop⟩
  lt := by
    have positive := byteLength_pos (parts_of_takePiece? origin.taken).nonempty
    rw [origin.start, origin.stop, byteLength_append, byteLength_append]
    omega

/-- The separators in front of a token are dropped where its lexeme is cut out. -/
theorem lexeme_eq :
    ∃ part, token.span.slice chars = .ok part
      ∧ token.lexeme.toList = part.dropWhile Lexer.isSeparator := by
  obtain ⟨-, nonempty, fits⟩ := parts_of_takePiece? origin.taken
  refine ⟨gap ++ piece.chars, Span.slice_eq_ok_iff.2 ⟨⟨front, rest, ?_, origin.start⟩, ?_⟩, ?_⟩
  · simp [origin.chars_eq]
  · rw [origin.stop, origin.start, byteLength_append]
  · obtain ⟨char, more, chars_eq⟩ := List.exists_cons_of_ne_nil nonempty
    have noSeparator := fits.not_isSeparator origin.not_blank char (by simp [chars_eq])
    rw [List.dropWhile_append_of_pos origin.separators, origin.toList_lexeme, chars_eq]
    simp [noSeparator]

/-- A token is no shorter than any piece that begins where it does. -/
theorem isLongest : token.IsLongest chars := by
  refine ⟨front ++ gap, rest, ?_, ?_, ?_⟩
  · simp [origin.chars_eq, origin.toList_lexeme]
  · simp [origin.stop, origin.toList_lexeme]
  · intro other behind parts
    rw [origin.toList_lexeme] at parts ⊢
    exact length_le_of_takePiece? origin.taken parts

/-- A parenthesis opens next among the pieces behind a token if one opens behind it. -/
theorem opensNext_iff : opensNext following ↔ OpensBehind chars token.span.stop := by
  rw [origin.cuts.opensNext_iff]
  constructor
  · exact fun opens => ⟨_, rest, origin.chars_eq_behind, origin.stop, opens⟩
  · rintro ⟨before, behind, same, position, opens⟩
    rw [origin.chars_eq_behind] at same
    obtain ⟨-, rfl⟩ := split_unique same (origin.stop.symm.trans position)
    exact opens

/-- What a token that comes from a piece keeps of the text. -/
theorem faithful : token.Faithful chars others := by
  obtain ⟨-, nonempty, fits⟩ := parts_of_takePiece? origin.taken
  obtain ⟨differential_iff, function_iff, name_iff⟩ := names_of_tokenKind? nonempty fits origin.kind
  rw [← origin.toList_lexeme] at differential_iff name_iff
  rw [← origin.lexeme, origin.opensNext_iff] at function_iff
  refine ⟨origin.region, ?_, origin.lexeme_eq, origin.isLongest, ?_, function_iff, name_iff, ?_⟩
  · intro other member
    rw [origin.others_eq] at member
    have behind : (if token.kind = .function then some token.span.stop else none).getD
        token.span.stop = token.span.stop := by
      split <;> rfl
    exact behind ▸ (origin.cuts.placed behind.le).start_le other member
  · exact differential_iff.trans (isDifferential_iff _)
  · intro isFunction
    have opens := origin.opensNext_iff.2 (function_iff.1 isFunction).2
    rw [origin.others_eq, if_pos isFunction]
    exact tokens_of_opensNext opens _ _

end Origin

/-- The tokens of a text keep everything of it but the separators, and nothing else: their lexemes
are the characters of the text, and each of them is faithful to it. -/
theorem tokens_faithful {chars : List Char} {tokens : List Token}
    (scanned : Token.scan? 0 chars = .ok tokens) :
    tokens.flatMap (·.lexeme.toList) = chars.filter (fun char => !Lexer.isSeparator char)
      ∧ ∀ before token after, tokens = before ++ token :: after → token.Faithful chars after := by
  obtain ⟨pieces, cuts, rfl⟩ := scan?_eq_ok_iff.1 scanned
  refine ⟨cuts.lexemes_eq 0 none, ?_⟩
  intro before token after split
  obtain ⟨front, gap, rest, piece, following, origin⟩ :=
    @Cuts.exists_origin chars _ _ cuts [] [] rfl (by simp) 0 none rfl rfl _ _ _ split
  exact origin.faithful

/-- The parenthesis behind the name of a function takes in the blank between them. -/
theorem tokens_faithful_sine :
    let chars := "sin (x) + dx".toList
    let tokens : List Token :=
      [⟨.function, "sin", ⟨0, 3⟩⟩, ⟨.opening, "(", ⟨3, 5⟩⟩, ⟨.name, "x", ⟨5, 6⟩⟩,
        ⟨.closing, ")", ⟨6, 7⟩⟩, ⟨.operator, "+", ⟨8, 9⟩⟩, ⟨.differential, "dx", ⟨10, 12⟩⟩]
    Token.scan? 0 chars = .ok tokens
      ∧ tokens.flatMap (·.lexeme.toList) = "sin(x)+dx".toList
      ∧ ∀ before token after, tokens = before ++ token :: after → token.Faithful chars after := by
  intro chars tokens
  have scanned : Token.scan? 0 chars = .ok tokens := by rfl
  obtain ⟨lexemes, faithful⟩ := tokens_faithful scanned
  exact ⟨scanned, lexemes, faithful⟩

end Lexer

end Workings
