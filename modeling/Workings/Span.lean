/-!
# Regions of a text

Positions count the bytes of the text in UTF-8, so they fall between characters wherever a region is
built from whole characters.
-/

namespace Workings

/-- The bytes from `start` up to, but not including, `stop`. -/
structure Span where
  start : Nat
  stop : Nat
  deriving Repr, DecidableEq, Inhabited

/-- The region moved right. -/
def Span.shift (span : Span) (offset : Nat) : Span :=
  ⟨span.start + offset, span.stop + offset⟩

/-- The number of bytes of a list of characters. -/
def byteLength : List Char → Nat
  | [] => 0
  | char :: rest => char.utf8Size + byteLength rest

@[simp] theorem byteLength_nil : byteLength [] = 0 := rfl

@[simp] theorem byteLength_cons (char : Char) (chars : List Char) :
    byteLength (char :: chars) = char.utf8Size + byteLength chars := rfl

@[simp] theorem byteLength_append (left right : List Char) :
    byteLength (left ++ right) = byteLength left + byteLength right := by
  induction left with
  | nil => simp
  | cons char rest hypothesis => simp [hypothesis, Nat.add_assoc]

@[simp] theorem Span.shift_start (span : Span) (offset : Nat) :
    (span.shift offset).start = span.start + offset := rfl

@[simp] theorem Span.shift_stop (span : Span) (offset : Nat) :
    (span.shift offset).stop = span.stop + offset := rfl

end Workings
