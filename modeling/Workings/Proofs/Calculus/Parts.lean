import Mathlib.Data.List.Forall2
import Workings.Proofs.Calculus.Spelling

/-!
# Sums part by part

What is found for every part of a sum is put together to what is found for the sum.
-/

namespace Workings.Calculus

open Polynomial

variable {First Second Third : Type}

/-- If a step answers for every member of a list, all of the answers are found. -/
theorem exists_mapM {Failure : Type} {step : First → Except Failure Second}
    {related : First → Second → Prop} {list : List First}
    (each : ∀ first ∈ list, ∃ second, step first = .ok second ∧ related first second) :
    ∃ others, list.mapM step = .ok others ∧ List.Forall₂ related list others := by
  induction list with
  | nil => exact ⟨[], rfl, .nil⟩
  | cons first rest hypothesis =>
    rw [List.forall_mem_cons] at each
    obtain ⟨second, answer, head⟩ := each.1
    obtain ⟨others, answers, tail⟩ := hypothesis each.2
    refine ⟨second :: others, ?_, .cons head tail⟩
    rw [List.mapM_cons, answer, answers]
    rfl

/-- If the members of two lists are related through others, so are the lists. -/
theorem exists_between {left : First → Third → Prop} {right : Second → Third → Prop}
    {list : List First} {others : List Second}
    (all : List.Forall₂ (fun first second => ∃ third, left first third ∧ right second third)
      list others) :
    ∃ between, List.Forall₂ left list between ∧ List.Forall₂ right others between := by
  induction all with
  | nil => exact ⟨[], .nil, .nil⟩
  | cons head _ hypothesis =>
    obtain ⟨third, isLeft, isRight⟩ := head
    obtain ⟨between, lefts, rights⟩ := hypothesis
    exact ⟨third :: between, .cons isLeft lefts, .cons isRight rights⟩

/-- What is related to a list with a last element has a last element, too. -/
theorem of_forall₂_append {related : First → Second → Prop} {front : List First} {last : First}
    {others : List Second} (all : List.Forall₂ related (front ++ [last]) others) :
    ∃ front' last', others = front' ++ [last'] ∧ List.Forall₂ related front front'
      ∧ related last last' := by
  induction front generalizing others with
  | nil =>
    cases all with
    | cons head tail =>
      obtain rfl := List.forall₂_nil_left_iff.1 tail
      exact ⟨[], _, rfl, .nil, head⟩
  | cons first rest hypothesis =>
    cases all with
    | cons head tail =>
      obtain ⟨front', last', rfl, front_related, last_related⟩ := hypothesis tail
      exact ⟨_ :: front', last', rfl, .cons head front_related, last_related⟩

/-- Products that are joined by a sign of addition write the sum. -/
theorem Writes.intercalate {R : Type} [CommRing R] {letter : Char} {separator : List Char}
    (joins : ∀ {left right : List Char} {value other : R[X]},
      Writes letter EndsWord .expression left value →
        Writes letter EndsWord (.chain .factor) right other →
          Writes letter EndsWord .expression (left ++ (separator ++ right)) (value + other))
    {parts : List (List Char)} {values : List R[X]} (nonempty : parts ≠ [])
    (all : List.Forall₂ (Writes letter EndsWord (.chain .factor)) parts values) :
    Writes letter EndsWord .expression (separator.intercalate parts) values.sum := by
  -- a sum is read from the left, so what is read already grows by one part after the other
  have begun {left : List Char} {value : R[X]} {parts : List (List Char)} {values : List R[X]}
      (writes : Writes letter EndsWord .expression left value)
      (all : List.Forall₂ (Writes letter EndsWord (.chain .factor)) parts values) :
      Writes letter EndsWord .expression (separator.intercalate (left :: parts))
        (value + values.sum) := by
    induction all generalizing left value with
    | nil => simpa [List.intercalate] using writes
    | @cons part other rest others head _ hypothesis =>
      have whole := hypothesis (joins writes head)
      have same : separator.intercalate (left :: part :: rest)
          = separator.intercalate ((left ++ (separator ++ part)) :: rest) := by
        cases rest <;> simp [List.intercalate]
      rw [same, List.sum_cons, ← add_assoc]
      exact whole
  cases all with
  | nil => contradiction
  | cons head tail =>
    rw [List.sum_cons]
    exact begun head.expression tail

end Workings.Calculus
