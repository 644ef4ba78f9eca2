/-!
# Simpson's rule

The area under a curve is summed up from samples at the ends of two hundred intervals of equal
width. There is no area if a sample is missing.
-/

namespace Workings.Evaluation

/-- The number of intervals, which is even. -/
def intervals : Nat := 200

/-- The weight of an inner sample: four and two in turn. -/
def weight (index : Nat) : Float :=
  if index % 2 = 1 then 4 else 2

/-- The area under a curve between two bounds. Samples are taken at both bounds first and then from
left to right; the first that is missing ends the sum. -/
def simpson {m : Type → Type} [Monad m] (sample : Float → OptionT m Float)
    (lower upper : Float) : OptionT m Float := do
  let step := (upper - lower) / Float.ofNat intervals
  let atLower ← sample lower
  let atUpper ← sample upper
  let sum ← (List.range' 1 (intervals - 1)).foldlM
    (fun sum index => do
      let value ← sample (lower + Float.ofNat index * step)
      return sum + weight index * value)
    (atLower + atUpper)
  return sum * step / 3

end Workings.Evaluation
