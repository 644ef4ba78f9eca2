/-!
# Bindings

The numbers that names stand for. No name is bound twice.
-/

namespace Workings

/-- Numbers bound to names. -/
structure Bindings where
  pairs : List (String × Float)
  distinct : (pairs.map Prod.fst).Nodup

namespace Bindings

/-- No name is bound. -/
def empty : Bindings := ⟨[], List.nodup_nil⟩

instance : Inhabited Bindings := ⟨empty⟩

/-- The number that a name is bound to. -/
def get? (bindings : Bindings) (name : String) : Option Float :=
  bindings.pairs.lookup name

/-- Binds a name, whatever it was bound to before. -/
def set (bindings : Bindings) (name : String) (value : Float) : Bindings where
  pairs := (name, value) :: bindings.pairs.filter fun pair => pair.1 ≠ name
  distinct := by
    refine List.nodup_cons.2 ⟨by simp, ?_⟩
    exact bindings.distinct.sublist (List.filter_sublist.map Prod.fst)

/-- Binds names one after the other; of two bindings of one name the later one holds. -/
def ofList (pairs : List (String × Float)) : Bindings :=
  pairs.foldl (fun bindings pair => bindings.set pair.1 pair.2) empty

/-- Dropping the pairs of one name does not change what another name is bound to. -/
theorem lookup_filter_ne {name other : String} (different : other ≠ name)
    (pairs : List (String × Float)) :
    (pairs.filter fun pair => pair.1 ≠ name).lookup other = pairs.lookup other := by
  induction pairs with
  | nil => rfl
  | cons pair rest hypothesis =>
    obtain ⟨key, value⟩ := pair
    by_cases dropped : key = name
    · subst dropped
      have apart : (other == key) = false := by simpa using different
      rw [List.filter_cons_of_neg (by simp), hypothesis, List.lookup_cons, apart]
    · rw [List.filter_cons_of_pos (by simpa using dropped), List.lookup_cons, List.lookup_cons,
        hypothesis]

/-- A name that was just bound has its number, and all others keep theirs. -/
theorem get?_set (bindings : Bindings) (name other : String) (value : Float) :
    (bindings.set name value).get? other =
      if other = name then some value else bindings.get? other := by
  unfold get? set
  by_cases same : other = name
  · simp [same]
  · have apart : (other == name) = false := by simpa using same
    rw [List.lookup_cons, lookup_filter_ne same, apart, if_neg same]

/-- A name is bound to the number that it is listed with. -/
theorem get?_eq_some_iff {bindings : Bindings} {name : String} {value : Float} :
    bindings.get? name = some value ↔ (name, value) ∈ bindings.pairs := by
  obtain ⟨pairs, distinct⟩ := bindings
  unfold get?
  induction pairs with
  | nil => simp
  | cons pair rest hypothesis =>
    obtain ⟨key, bound⟩ := pair
    obtain ⟨fresh, distinct⟩ := List.nodup_cons.1 distinct
    by_cases same : name = key
    · subst same
      have absent : (name, value) ∉ rest :=
        fun member => fresh (List.mem_map.2 ⟨_, member, rfl⟩)
      simp [absent, eq_comm]
    · have apart : (name == key) = false := by simpa using same
      rw [List.lookup_cons, apart, List.mem_cons]
      simp only [hypothesis distinct, Prod.mk.injEq, same, false_and, false_or]

end Bindings

end Workings
