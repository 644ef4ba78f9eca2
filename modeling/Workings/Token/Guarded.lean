import Workings.Guarded
import Workings.Token.Lexer

/-!
# From a region of a text to its tokens

The pieces of a text are known by their places: what a piece says is cut out of the text. A region
is read as a text of its own, and what comes of it is moved to where the region begins.
-/

namespace Workings

/-- A piece and the region it was found in. -/
structure Find where
  piece : Piece
  region : Span
  deriving Repr, DecidableEq

namespace Lexer

/-- The regions of pieces that stand one behind the other, the first one at the given position. -/
def finds (position : Nat) : List Piece → List Find
  | [] => []
  | piece :: rest =>
    let stop := position + byteLength piece.chars
    ⟨piece, ⟨position, stop⟩⟩ :: finds stop rest

/-- The tokens that pieces make whose characters are cut out of a text. The parenthesis behind the
name of a function begins at the joint. -/
def guardedTokens (chars : List Char) (joint : Option Nat) : List Find → Guarded (List Token)
  | [] => .ok []
  | find :: rest => do
    let lexeme ← Guarded.cut chars find.region
    match tokenKind? { find.piece with chars := lexeme } (rest.map (·.piece)) with
    | none => guardedTokens chars joint rest
    | some kind =>
      let token := ⟨kind, String.ofList lexeme,
        ⟨joint.getD find.region.start, find.region.stop⟩⟩
      let tokens ← guardedTokens chars
        (if kind = .function then some find.region.stop else none) rest
      return token :: tokens

end Lexer

namespace Token

/-- What stands for a character where there is none. -/
def replacement : Char := '\uFFFD'

/-- The tokens of a text, or the first character that begins no token. -/
def guardedScan? (chars : List Char) : Guarded (Except Fault (List Token)) := do
  let (pieces, unread) := Lexer.pieces chars
  if unread.isEmpty then
    let tokens ← Lexer.guardedTokens chars none (Lexer.finds 0 pieces)
    return .ok tokens
  else
    let start := byteLength chars - byteLength unread
    let char := (← Guarded.cutFrom chars start).headD replacement
    let stop ← Guarded.add start char.utf8Size
    return .error (.within ⟨start, stop⟩ (.unknownCharacter char))

/-- The token moved right. -/
def guardedShift (offset : Nat) (token : Token) : Guarded Token := do
  return { token with span := ← Guarded.shift token.span offset }

/-- The tokens of a region of a text. -/
def scanRegion? (source : List Char) (region : Span) : Guarded (Except Fault (List Token)) := do
  match ← guardedScan? (← Guarded.cut source region) with
  | .error fault =>
    let moved ← (fault.shift? region.start).mapError .overflow
    return .error moved
  | .ok tokens =>
    let moved ← tokens.mapM (guardedShift region.start)
    return .ok moved

end Token

end Workings
