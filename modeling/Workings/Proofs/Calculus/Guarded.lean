import Workings.Proofs.Calculus.Terms
import Workings.Proofs.Calculus.TopLevel

/-!
# Where the rules of calculus break off

Wherever a rule splits a text, it finds the parts by their positions, and the parentheses in front
of them can be counted, as long as there are not too many of them in the whole text. So a rule that
splits by positions breaks off only where an exponent leaves its range, and answers the same
otherwise.
-/

namespace Workings.Calculus

/-- A text with no more parentheses than can be counted, all of whose positions are in their
range. -/
structure Countable (chars : List Char) : Prop where
  few : chars.countP Lexer.isParen < 2 ^ 31
  fits : byteLength chars ≤ Fault.lastPosition

/-- Leaving characters out makes no text longer. -/
theorem byteLength_le_of_sublist {part chars : List Char} (sublist : part.Sublist chars) :
    byteLength part ≤ byteLength chars := by
  induction sublist with
  | slnil => exact Nat.le_refl _
  | cons char _ hypothesis => exact Nat.le_trans hypothesis (Nat.le_add_left _ _)
  | cons_cons char _ hypothesis => exact Nat.add_le_add_left hypothesis _

/-- What is left of a countable text when characters are left out is countable. -/
theorem Countable.of_sublist {part chars : List Char} (countable : Countable chars)
    (sublist : part.Sublist chars) : Countable part where
  few := Nat.lt_of_le_of_lt sublist.countP_le countable.few
  fits := Nat.le_trans (byteLength_le_of_sublist sublist) countable.fits

section

variable {chars part : List Char} {parts : List (List Char)}

/-- The factors of a countable text are found by positions. -/
theorem Countable.guardedFactors?_eq (countable : Countable chars) :
    guardedFactors? chars = .ok (twoFactors? chars) := by
  have splits : guardedSplit '*' chars = .ok (splitTop '*' chars) :=
    guardedSplit_eq (by decide) countable.few countable.fits
  rw [guardedFactors?, splits, Guarded.ok_bind, twoFactors?]
  match splitTop '*' chars with
  | [_, _] => rfl
  | [] | [_] | _ :: _ :: _ :: _ => rfl

/-- The addends of a countable text are found by positions. -/
theorem Countable.guardedAddends?_eq (countable : Countable chars) :
    guardedAddends? chars = .ok (addends? chars) := by
  have splits : guardedSplit '+' chars = .ok (splitTop '+' chars) :=
    guardedSplit_eq (by decide) countable.few countable.fits
  rw [guardedAddends?, splits]
  rfl

/-- The addends of a countable text are countable. -/
theorem Countable.of_mem_addends? (countable : Countable chars)
    (found : addends? chars = some parts) (member : part ∈ parts) : Countable part := by
  have cutOut : part <:+: ['+'].intercalate parts := infix_intercalate member
  rw [← of_addends? found, intercalate_splitTop] at cutOut
  exact countable.of_sublist cutOut.sublist

end

/-- A step that breaks off nowhere but where a number leaves its range is taken for every member of
a list. -/
theorem mapM_ofOverflow {First Second : Type} {step : First → Except Overflow Second}
    {guarded : First → Guarded Second} {list : List First}
    (each : ∀ first ∈ list, guarded first = Guarded.ofOverflow (step first)) :
    list.mapM guarded = Guarded.ofOverflow (list.mapM step) := by
  induction list with
  | nil => rfl
  | cons first rest hypothesis =>
    obtain ⟨head, tail⟩ := List.forall_mem_cons.1 each
    rw [List.mapM_cons, List.mapM_cons, head, hypothesis tail]
    exact Guarded.ofOverflow_bind fun _ => Guarded.ofOverflow_bind fun _ => rfl

/-- The rule for one part of a sum, from what is found if it is simple, the rule for products, and
what is kept of it if neither applies. -/
def addendRule (simple : List Char → Except Overflow (Option (List Char)))
    (product? : List Char → List Char → Option (List Char)) (kept : List Char → List Char)
    (part : List Char) : Except Overflow (List Char) := do
  match ← simple part with
  | some result => return result
  | none =>
    let product := (twoFactors? part).bind fun (left, right) => product? left right
    return product.getD (kept part)

/-- The derivatives of addends. -/
theorem addendDerivative_eq (wrt : List Char) :
    addendDerivative wrt
      = addendRule (simpleDerivative wrt) (productDerivative? wrt) (derivativeOf wrt) :=
  rfl

/-- The integrals of addends. -/
theorem addendIntegral_eq (wrt : List Char) :
    addendIntegral wrt
      = addendRule (simpleIntegral wrt) (productIntegral? wrt) (integralOf wrt) :=
  rfl

section

variable {chars part : List Char} {parts : List (List Char)}
  (simple : List Char → Except Overflow (Option (List Char)))
  (product? : List Char → List Char → Option (List Char)) (kept : List Char → List Char)

/-- The rule by positions for one part of a sum, for a countable part. -/
theorem Countable.guardedAddend_eq (countable : Countable part) :
    guardedAddend simple product? kept part
      = Guarded.ofOverflow (addendRule simple product? kept part) := by
  refine Guarded.ofOverflow_bind fun found => ?_
  cases found with
  | some result => rfl
  | none =>
    rw [countable.guardedFactors?_eq]
    rfl

/-- The rule by positions for all parts of a countable sum. -/
theorem Countable.mapM_guardedAddend_eq (countable : Countable chars)
    (sum : addends? chars = some parts) :
    parts.mapM (guardedAddend simple product? kept)
      = Guarded.ofOverflow (parts.mapM (addendRule simple product? kept)) :=
  mapM_ofOverflow fun _ member =>
    (countable.of_mem_addends? sum member).guardedAddend_eq simple product? kept

end

/-- Differentiation by positions breaks off for no countable text but where an exponent leaves its
range, and finds the derivative. -/
theorem Countable.guardedDifferentiate_eq {expr : String} (countable : Countable expr.toList)
    (wrt : String) :
    guardedDifferentiate wrt expr = Guarded.ofOverflow (differentiate wrt expr) := by
  have compact : Countable (Text.compact expr.toList) :=
    countable.of_sublist List.filter_sublist
  refine (congrArg (String.ofList <$> ·) ?_).trans (Guarded.ofOverflow_bind fun _ => rfl)
  refine Guarded.ofOverflow_bind fun found => ?_
  cases found with
  | some result => rfl
  | none =>
    rw [compact.guardedAddends?_eq, Guarded.ok_bind]
    cases sum : addends? (Text.compact expr.toList) with
    | some parts =>
      dsimp only
      rw [compact.mapM_guardedAddend_eq _ _ _ sum, ← addendDerivative_eq]
      exact Guarded.ofOverflow_bind fun _ => rfl
    | none =>
      dsimp only
      rw [compact.guardedFactors?_eq, Guarded.ok_bind]
      cases twoFactors? (Text.compact expr.toList) with
      | none => rfl
      | some factors =>
        obtain ⟨left, right⟩ := factors
        dsimp only
        cases productDerivative? wrt.toList left right with
        | some result => rfl
        | none =>
          exact Guarded.ofOverflow_bind fun _ => Guarded.ofOverflow_bind fun _ => rfl

/-- Integration by positions breaks off for no countable text but where an exponent leaves its
range, and finds the integral. -/
theorem Countable.guardedIntegrate_eq {expr : String} (countable : Countable expr.toList)
    (wrt : String) :
    guardedIntegrate wrt expr = Guarded.ofOverflow (integrate wrt expr) := by
  have compact : Countable (Text.compact expr.toList) :=
    countable.of_sublist List.filter_sublist
  refine (congrArg (String.ofList <$> ·) ?_).trans (Guarded.ofOverflow_bind fun _ => rfl)
  refine Guarded.ofOverflow_bind fun found => ?_
  cases found with
  | some result => rfl
  | none =>
    rw [compact.guardedAddends?_eq, Guarded.ok_bind]
    cases sum : addends? (Text.compact expr.toList) with
    | some parts =>
      dsimp only
      rw [compact.mapM_guardedAddend_eq _ _ _ sum, ← addendIntegral_eq]
      exact Guarded.ofOverflow_bind fun _ => rfl
    | none =>
      dsimp only
      rw [compact.guardedFactors?_eq]
      rfl

end Workings.Calculus
