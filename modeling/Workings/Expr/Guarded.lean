import Workings.Expr.Literal
import Workings.Expr.Walk
import Workings.Token.Guarded

/-!
# Reading whole texts with guarded positions

A text that is one derivative or one integral is taken apart by positions: where its first
parenthesis opens and where that one is closed, where its differential begins, where its body ends,
and where an underscore, a caret and a blank stand in it. The parts are read as regions of the text.
-/

namespace Workings.Expr

/-- A guarded computation that may also find a fault. -/
abbrev Attempt := ExceptT Fault Guarded

/-- Reads a region of a text by the grammar alone. -/
def guardedRegion (source : List Char) (ceiling : Nat) (region : Span) : Attempt Expr := do
  let tokens ← ExceptT.mk (Token.scanRegion? source region)
  ExceptT.mk (Walk.whole.run ⟨tokens, ⟨region.stop, ceiling⟩⟩)

/-- How many bytes stand in front of the first occurrence of a character. -/
def offset? (target : Char) : List Char → Option Nat
  | [] => none
  | char :: rest => if char = target then some 0 else (offset? target rest).map (char.utf8Size + ·)

/-- How many bytes stand in front of the parenthesis that closes the last of `depth` open ones. -/
def closingOffset? (offset depth : Nat) : List Char → Guarded (Option Nat)
  | [] => return none
  | char :: rest => do
    let behind := offset + char.utf8Size
    if char = '(' then closingOffset? behind (← Guarded.add depth 1) rest
    else if char = ')' then
      let depth ← Guarded.subtract depth 1
      if depth = 0 then return some offset else closingOffset? behind depth rest
    else closingOffset? behind depth rest

/-- Where the parenthesis is closed that opens at the given position. -/
def closing? (source : List Char) (opening : Nat) : Guarded (Option Nat) := do
  match ← closingOffset? 0 0 (← Guarded.cutFrom source opening) with
  | none => return none
  | some offset => return some (← Guarded.add opening offset)

/-- Reads a text that is one derivative. -/
def guardedDerivative? (source : List Char) (ceiling : Nat) :
    Guarded (Option (Except Fault Expr)) := do
  match source with
  | 'd' :: '/' :: 'd' :: rest =>
    match offset? '(' rest with
    | none => return none
    | some offset =>
      let opening ← Guarded.add 3 offset
      let wrt ← Guarded.cut source ⟨3, opening⟩
      if isIdentifier wrt then
        match ← closing? source opening with
        | none => return none
        | some closing =>
          let last ← Guarded.subtract (byteLength source) 1
          if closing = last then
            let region := ⟨← Guarded.add opening 1, ← Guarded.subtract (byteLength source) 1⟩
            let result ← (guardedRegion source ceiling region).run
            return some <| result.map fun body =>
              .derivative (String.ofList wrt) body ⟨0, byteLength source⟩
          else return none
      else return none
  | _ => return none

/-- Where the first caret and the blank behind the upper bound stand outside parentheses. `start`
is where the bounds begin, `caret?` the caret if it was already met. -/
def seams (start offset : Nat) (depth : Int) (caret? : Option Nat) :
    List Char → Guarded (Option Nat × Option Nat)
  | [] => return (caret?, none)
  | char :: rest => do
    let position ← Guarded.add start offset
    let behind := offset + char.utf8Size
    if char = '(' then seams start behind (← Guarded.countUp depth) caret? rest
    else if char = ')' then seams start behind (← Guarded.countDown depth) caret? rest
    else if char = '^' ∧ depth = 0 ∧ caret?.isNone then
      seams start behind depth (some position) rest
    else if Text.isBlank char ∧ depth = 0 then
      match caret? with
      | some caret =>
        if (← Guarded.add caret 1) < position then return (caret?, some position)
        else seams start behind depth caret? rest
      | none => seams start behind depth caret? rest
    else seams start behind depth caret? rest

/-- Reads the bounds and the body of an integral with bounds in a region of a text. -/
def guardedBounded (wrt : Char) (source : List Char) (region span : Span) (ceiling : Nat) :
    Attempt Expr := do
  let malformed : Fault := .within region (.endsEarly .bounds)
  match offset? '_' (← Guarded.cut source region) with
  | none => throw malformed
  | some offset =>
    let underscore ← Guarded.add region.start offset
    let first ← Guarded.add underscore 1
    match ← seams first 0 0 none (← Guarded.cut source ⟨first, region.stop⟩) with
    | (some caret, some blank) =>
      let lower ← guardedRegion source ceiling ⟨first, caret⟩
      let upper ← guardedRegion source ceiling ⟨← Guarded.add caret 1, blank⟩
      let body ← guardedRegion source ceiling ⟨blank, region.stop⟩
      return .definite (String.singleton wrt) lower upper body span
    | _ => throw malformed

/-- Reads the body of an integral in a region of its text, with bounds if an underscore comes
first. -/
def guardedBody (wrt : Char) (source : List Char) (region : Span) (ceiling : Nat) :
    Attempt Expr := do
  let span : Span := ⟨0, byteLength source⟩
  let text ← Guarded.cut source region
  if (text.dropWhile Text.isBlank).head? = some '_' then
    guardedBounded wrt source region span ceiling
  else
    let body ← guardedRegion source ceiling region
    return .indefinite (String.singleton wrt) body span

/-- The letter of the differential that a text of two bytes is. -/
def differential? : List Char → Option Char
  | 'd' :: letter :: _ => if Lexer.isLetter letter then some letter else none
  | _ => none

/-- A text without the blanks at its end. -/
def trimEnd (chars : List Char) : List Char :=
  (chars.reverse.dropWhile Text.isBlank).reverse

/-- Reads a text that is one integral. -/
def guardedIntegral? (source : List Char) (ceiling : Nat) :
    Guarded (Option (Except Fault Expr)) := do
  match source with
  | '∫' :: body =>
    let marker ← Guarded.subtract (byteLength source) 2
    match (Guarded.cut? source ⟨marker, byteLength source⟩).bind differential? with
    | none => return none
    | some wrt =>
      match Guarded.cut? body ⟨0, ← Guarded.subtract (byteLength body) 2⟩ with
      | none => return none
      | some front =>
        let stop ← Guarded.add signLength (byteLength (trimEnd front))
        if stop = marker then return none
        else
          let result ← (guardedBody wrt source ⟨signLength, stop⟩ ceiling).run
          return some result
  | _ => return none

/-- Reads an expression in which at most `ceiling` levels nest. -/
def guardedRead (source : String) (ceiling : Nat) : Guarded (Except Fault Expr) := do
  let chars := source.toList
  match ← guardedDerivative? chars ceiling with
  | some result => return result
  | none =>
    match ← guardedIntegral? chars ceiling with
    | some result => return result
    | none => (guardedRegion chars ceiling ⟨0, byteLength chars⟩).run

end Workings.Expr
