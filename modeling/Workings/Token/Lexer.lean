import Workings.Fault
import Workings.Function

/-!
# From text to tokens

A text is first cut into pieces, blanks included, always taking the longest piece that fits. Names
are told apart afterwards, when it is known what follows them: the name of a function counts as one
only in front of a parenthesis, from which it may be parted by blanks.
-/

namespace Workings

/-- The kinds of pieces that a text is cut into. -/
inductive PieceKind where
  | blank
  | integralSign
  | derivative
  | word
  | number
  | operator
  | opening
  | closing
  | comma
  deriving Repr, DecidableEq

/-- A run of characters of one kind. -/
structure Piece where
  kind : PieceKind
  chars : List Char
  deriving Repr, DecidableEq

namespace Lexer

/-- A character that parts tokens: a space, tab, line feed, carriage return or form feed. -/
def isSeparator (char : Char) : Bool :=
  char = ' ' || char = '\t' || char = '\n' || char = '\r' || char = '\x0c'

/-- A letter that names are made of. -/
def isLetter (char : Char) : Bool :=
  ('a' ≤ char && char ≤ 'z') || ('A' ≤ char && char ≤ 'Z')

/-- A digit that numbers are made of. -/
def isDigit (char : Char) : Bool :=
  '0' ≤ char && char ≤ '9'

/-- A character that a name may begin with. -/
def startsName (char : Char) : Bool :=
  isLetter char || char = '_'

/-- A character that a name may go on with. -/
def continuesName (char : Char) : Bool :=
  startsName char || isDigit char

/-- One of the characters that are operators. -/
def isOperator (char : Char) : Bool :=
  "+-*/^%=".toList.contains char

/-- Takes the characters of a piece off a text for as long as they satisfy a condition. -/
def takePiece (kind : PieceKind) (belongs : Char → Bool) (begun rest : List Char) :
    Piece × List Char :=
  (⟨kind, begun ++ rest.takeWhile belongs⟩, rest.dropWhile belongs)

/-- Takes a number off a text that begins with a digit. A point belongs to it only if a digit
follows. -/
def takeNumber (chars : List Char) : Piece × List Char :=
  let whole := chars.takeWhile isDigit
  match chars.dropWhile isDigit with
  | '.' :: digit :: rest =>
    if isDigit digit then takePiece .number isDigit (whole ++ ['.']) (digit :: rest)
    else (⟨.number, whole⟩, '.' :: digit :: rest)
  | rest => (⟨.number, whole⟩, rest)

/-- Takes the longest piece off the beginning of a text. -/
def takePiece? : List Char → Option (Piece × List Char)
  | [] => none
  | char :: rest =>
    if isSeparator char then some (takePiece .blank isSeparator [] (char :: rest))
    else if char = '∫' then some (⟨.integralSign, [char]⟩, rest)
    else if startsName char then
      match char, rest with
      | 'd', '/' :: 'd' :: letter :: after =>
        if isLetter letter then some (⟨.derivative, ['d', '/', 'd', letter]⟩, after)
        else some (takePiece .word continuesName [] (char :: rest))
      | _, _ => some (takePiece .word continuesName [] (char :: rest))
    else if isDigit char then some (takeNumber (char :: rest))
    else if isOperator char then some (⟨.operator, [char]⟩, rest)
    else if char = '(' then some (⟨.opening, [char]⟩, rest)
    else if char = ')' then some (⟨.closing, [char]⟩, rest)
    else if char = ',' then some (⟨.comma, [char]⟩, rest)
    else none

/-- Cuts at most `count` pieces off a text. What is left cannot be cut, or was not reached. -/
def cut : (count : Nat) → List Char → List Piece × List Char
  | 0, chars => ([], chars)
  | count + 1, chars =>
    match takePiece? chars with
    | none => ([], chars)
    | some (piece, rest) =>
      let (pieces, unread) := cut count rest
      (piece :: pieces, unread)

/-- The pieces of a text and what could not be cut: nothing, or a rest whose first character begins
no piece. -/
def pieces (chars : List Char) : List Piece × List Char :=
  cut chars.length chars

/-- A name that is exactly the letter `d` and one further letter. -/
def isDifferential : List Char → Bool
  | ['d', letter] => isLetter letter
  | _ => false

/-- Whether a parenthesis opens next, blanks aside. -/
def opensNext : List Piece → Bool
  | [] => false
  | piece :: rest =>
    match piece.kind with
    | .blank => opensNext rest
    | .opening => true
    | _ => false

/-- The kind of a name in front of the given pieces. -/
def nameKind (chars : List Char) (following : List Piece) : TokenKind :=
  if isDifferential chars then .differential
  else if (Function.named? (String.ofList chars)).isSome && opensNext following then .function
  else .name

/-- The kind of the token that a piece makes; blanks make none. -/
def tokenKind? (piece : Piece) (following : List Piece) : Option TokenKind :=
  match piece.kind with
  | .blank => none
  | .integralSign => some .integralSign
  | .derivative => some .derivative
  | .word => some (nameKind piece.chars following)
  | .number => some .number
  | .operator => some .operator
  | .opening => some .opening
  | .closing => some .closing
  | .comma => some .comma

/-- The tokens that pieces make. `position` is where the first piece begins. After the name of a
function, `joint` is where that name ended: the parenthesis that follows is joined to it there,
across blanks. -/
def tokens (position : Nat) (joint : Option Nat) : List Piece → List Token
  | [] => []
  | piece :: rest =>
    let stop := position + byteLength piece.chars
    match tokenKind? piece rest with
    | none => tokens stop joint rest
    | some kind =>
      let token := ⟨kind, String.ofList piece.chars, ⟨joint.getD position, stop⟩⟩
      token :: tokens stop (if kind = .function then some stop else none) rest

end Lexer

/-- The tokens of a text that begins at the given position of its source, or the first character
that begins no token. -/
def Token.scan? (position : Nat) (chars : List Char) : Except Fault (List Token) :=
  let (pieces, unread) := Lexer.pieces chars
  match unread with
  | [] => .ok (Lexer.tokens position none pieces)
  | char :: _ =>
    let start := position + (byteLength chars - byteLength unread)
    .error (.within ⟨start, start + char.utf8Size⟩ (.unknownCharacter char))

end Workings
