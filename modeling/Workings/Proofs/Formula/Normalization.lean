import Mathlib.Data.List.Basic
import Workings.Formula.Detection

/-!
# What normalization does to an expression

Normalization goes over an expression character by character. Blanks are left out, the typographic
signs of multiplication, division and powers are written with plain characters, and every other
character is kept. Nothing in a normalized expression is left to be normalized, and blanks play no
part in what comes out.
-/

namespace Workings

/-- The typographic signs that are written with plain characters. -/
def typographicSigns : List Char := ['×', '÷', '²', '³']

/-- An expression and its normalized form. -/
inductive Normalizes : List Char → List Char → Prop where
  | nil : Normalizes [] []
  | blank {char : Char} {rest normal : List Char} (isBlank : Text.isBlank char)
      (further : Normalizes rest normal) : Normalizes (char :: rest) normal
  | times {rest normal : List Char} (further : Normalizes rest normal) :
      Normalizes ('×' :: rest) ('*' :: normal)
  | divided {rest normal : List Char} (further : Normalizes rest normal) :
      Normalizes ('÷' :: rest) ('/' :: normal)
  | squared {rest normal : List Char} (further : Normalizes rest normal) :
      Normalizes ('²' :: rest) ('^' :: '2' :: normal)
  | cubed {rest normal : List Char} (further : Normalizes rest normal) :
      Normalizes ('³' :: rest) ('^' :: '3' :: normal)
  /-- A character that is neither blank nor a typographic sign is kept. -/
  | kept {char : Char} {rest normal : List Char} (solid : ¬ Text.isBlank char)
      (plain : char ∉ typographicSigns) (further : Normalizes rest normal) :
      Normalizes (char :: rest) (char :: normal)

/-- Normalization goes over an expression character by character. -/
theorem normalizeChars_cons (char : Char) (rest : List Char) :
    normalizeChars (char :: rest)
      = (if Text.isBlank char then [] else plainForm char) ++ normalizeChars rest := by
  cases blank : Text.isBlank char <;> simp [normalizeChars, Text.compact, blank]

/-- A character that is no typographic sign is its own plain form. -/
theorem plainForm_eq_self {char : Char} (plain : char ∉ typographicSigns) :
    plainForm char = [char] := by
  unfold plainForm
  split
  case h_5 => rfl
  all_goals exact absurd (by decide) plain

/-- An expression has exactly one normalized form. -/
theorem normalizes_iff {chars normal : List Char} :
    Normalizes chars normal ↔ normalizeChars chars = normal := by
  constructor
  · intro normalizes
    induction normalizes with
    | nil => rfl
    | blank isBlank _ further => rw [normalizeChars_cons, if_pos isBlank, further, List.nil_append]
    | kept solid plain _ further =>
      rw [normalizeChars_cons, if_neg solid, plainForm_eq_self plain, further]
      rfl
    | times _ further | divided _ further | squared _ further | cubed _ further =>
      rw [normalizeChars_cons, if_neg (by decide), further]
      rfl
  · rintro rfl
    induction chars with
    | nil => exact .nil
    | cons char rest further =>
      rw [normalizeChars_cons]
      by_cases isBlank : Text.isBlank char
      · rw [if_pos isBlank]
        exact .blank isBlank further
      rw [if_neg isBlank]
      by_cases sign : char ∈ typographicSigns
      · simp only [typographicSigns, List.mem_cons, List.not_mem_nil, or_false] at sign
        rcases sign with rfl | rfl | rfl | rfl
        · exact .times further
        · exact .divided further
        · exact .squared further
        · exact .cubed further
      · rw [plainForm_eq_self sign]
        exact .kept isBlank sign further

/-- A normalized expression is its own normalized form. -/
theorem Normalizes.normalizes {chars normal : List Char} (normalizes : Normalizes chars normal) :
    Normalizes normal normal := by
  induction normalizes with
  | nil => exact .nil
  | blank _ _ further => exact further
  | kept solid plain _ further => exact .kept solid plain further
  | times _ further | divided _ further => exact .kept (by decide) (by decide) further
  | squared _ further | cubed _ further =>
    exact .kept (by decide) (by decide) (.kept (by decide) (by decide) further)

/-- An expression is normalized to its normalized form. -/
theorem normalizes_normalize (source : String) :
    Normalizes source.toList (normalize source).toList := by
  rw [normalize, String.toList_ofList]
  exact normalizes_iff.2 rfl

/-- What is normalized stays as it is. -/
theorem normalize_normalize (source : String) :
    normalize (normalize source) = normalize source := by
  have same := normalizes_iff.1 (normalizes_normalize source).normalizes
  rw [normalize, same, String.ofList_toList]

/-- Texts that differ in blanks alone are normalized alike. -/
theorem normalize_eq_of_compact_eq {left right : String}
    (same : Text.compact left.toList = Text.compact right.toList) :
    normalize left = normalize right := by
  simp only [normalize, normalizeChars, same]

/-- Normalization drops blanks and writes signs with plain characters. -/
example : normalize " (a × b) ÷ c² + d³ " = "(a*b)/c^2+d^3" := by
  decide

end Workings
