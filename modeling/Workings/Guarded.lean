import Workings.Fault
import Workings.Span.Slice

/-!
# Guarded computations

A guarded computation breaks off where a region cannot be cut out of a text, and where a number
leaves its range. Positions, lengths and levels are whole numbers of 64 bits without a sign. The
parentheses in the bounds of an integral are counted in 32 bits with a sign, since closing ones may
come first.
-/

namespace Workings

/-- Why a guarded computation breaks off. -/
inductive Breakdown where
  | miscut (cause : Miscut)
  | overflow (cause : Overflow)
  /-- More rounds or levels than were provided for. -/
  | exhausted
  deriving Repr, DecidableEq

/-- A computation that may break off. -/
abbrev Guarded := Except Breakdown

namespace Guarded

/-- A computation that breaks off nowhere but where a number leaves its range. -/
def ofOverflow {Result : Type} (computed : Except Overflow Result) : Guarded Result :=
  computed.mapError .overflow

/-- The sum of two positions. -/
def add (left right : Nat) : Guarded Nat :=
  if left + right ≤ Fault.lastPosition then .ok (left + right) else .error (.overflow .adding)

/-- The difference of two positions. -/
def subtract (left right : Nat) : Guarded Nat :=
  if right ≤ left then .ok (left - right) else .error (.overflow .subtracting)

/-- The greatest count. -/
def greatestCount : Int := 0x7fffffff

/-- The least count. -/
def leastCount : Int := -0x80000000

/-- The count after an opening parenthesis. -/
def countUp (count : Int) : Guarded Int :=
  if count + 1 ≤ greatestCount then .ok (count + 1) else .error (.overflow .adding)

/-- The count after a closing parenthesis. -/
def countDown (count : Int) : Guarded Int :=
  if leastCount ≤ count - 1 then .ok (count - 1) else .error (.overflow .subtracting)

/-- The region moved right. -/
def shift (span : Span) (offset : Nat) : Guarded Span := do
  return ⟨← add span.start offset, ← add span.stop offset⟩

/-- The characters of a text in a region. -/
def cut (chars : List Char) (region : Span) : Guarded (List Char) :=
  (region.slice chars).mapError .miscut

/-- The characters of a text from a position on. -/
def cutFrom (chars : List Char) (start : Nat) : Guarded (List Char) :=
  cut chars ⟨start, byteLength chars⟩

/-- The characters of a text in a region, if it is one of the text. -/
def cut? (chars : List Char) (region : Span) : Option (List Char) :=
  (region.slice chars).toOption

/-- A computation that did not break off goes on. -/
@[simp] theorem ok_bind {First Second : Type} (value : First) (next : First → Guarded Second) :
    (Except.ok value >>= next) = next value :=
  rfl

/-- A computation breaks off nowhere but where a number leaves its range, if it is made of steps of
which this is true. -/
theorem ofOverflow_bind {First Second : Type} {first : Except Overflow First}
    {next : First → Except Overflow Second} {guarded : First → Guarded Second}
    (goesOn : ∀ value, guarded value = ofOverflow (next value)) :
    (ofOverflow first >>= guarded) = ofOverflow (first >>= next) := by
  cases first with
  | error overflow => rfl
  | ok value => exact goesOn value

/-- Positions far from the end of their range can be added. -/
theorem add_eq {left right : Nat} (short : left + right ≤ 0xffffffff) :
    add left right = .ok (left + right) := by
  refine if_pos ?_
  rw [Fault.lastPosition]
  omega

/-- A position can be taken from one that is not smaller. -/
theorem subtract_eq {left right : Nat} (le : right ≤ left) :
    subtract left right = .ok (left - right) :=
  if_pos le

/-- A count below the greatest one goes up. -/
theorem countUp_eq {count : Int} (le : count + 1 ≤ 0x7fffffff) :
    countUp count = .ok (count + 1) :=
  if_pos le

/-- A count above the least one goes down. -/
theorem countDown_eq {count : Int} (le : -0x80000000 ≤ count - 1) :
    countDown count = .ok (count - 1) :=
  if_pos le

end Guarded

end Workings
