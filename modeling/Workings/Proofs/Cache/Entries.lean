import Workings.Cache

/-!
# What the entries of a cache have in common

A property that every value has when it is put into a cache is one that every value has when it is
got out of it, whatever was evicted, dropped or cleared in between.
-/

namespace Workings.Cache

variable {Content : Type} {cache : Cache Content} {property : String → Content → Prop}

/-- All entries of a cache have a property. -/
def Every (property : String → Content → Prop) (cache : Cache Content) : Prop :=
  ∀ entry ∈ cache.entries, property entry.key entry.value

/-- An empty cache has no entry without the property. -/
theorem every_empty (limit lifetime : Nat) (sizer : Content → Nat) :
    Every property (empty limit lifetime sizer) := by
  intro entry member
  cases member

/-- The entry that is found for a key is an entry of the cache with that key. -/
theorem mem_of_peek? {key : String} {entry : Entry Content} (found : cache.peek? key = some entry) :
    entry ∈ cache.entries ∧ entry.key = key := by
  refine ⟨List.mem_of_find?_eq_some found, ?_⟩
  simpa using List.find?_some found

/-- A value that is got out of a cache has the property. -/
theorem Every.of_get (every : cache.Every property) {now : Nat} {key : String} {value : Content}
    (hit : (cache.get now key).1 = some value) : property key value := by
  unfold get at hit
  split at hit
  · contradiction
  · rename_i entry found
    obtain ⟨member, rfl⟩ := mem_of_peek? found
    split at hit
    · contradiction
    · obtain rfl := Option.some.inj hit
      exact every entry member

/-- Entries that are left after others were dropped keep the property. -/
theorem Every.others (every : cache.Every property) (key : String) :
    ∀ entry ∈ others cache.entries key, property entry.key entry.value :=
  fun entry member => every entry (mem_others.1 member).1

/-- Looking a key up keeps the property. -/
theorem Every.get (every : cache.Every property) (now : Nat) (key : String) :
    (cache.get now key).2.Every property := by
  unfold Cache.get
  split
  · exact every
  · rename_i entry found
    split
    · exact every.others key
    · intro other member
      rcases mem_keep.1 member with ⟨kept, -⟩ | rfl
      · exact every other kept
      · exact every entry (mem_of_peek? found).1

/-- Giving up an entry keeps the property. -/
theorem Every.makeRoom (every : cache.Every property) (key : String) :
    (cache.makeRoom key).Every property := by
  unfold Cache.makeRoom
  split
  · split
    · exact every
    · rename_i oldest _
      exact every.others oldest.key
  · exact every

/-- Putting a value with the property into a cache keeps the property. -/
theorem Every.put (every : cache.Every property) (now : Nat) {key : String} {value : Content}
    (holds : property key value) : (cache.put now key value).Every property := by
  unfold Cache.put
  split
  · exact every
  · intro entry member
    rcases mem_keep.1 member with ⟨kept, -⟩ | rfl
    · exact every.makeRoom key entry kept
    · exact holds

/-- Clearing a cache keeps the property. -/
theorem Every.clear (cache : Cache Content) : cache.clear.Every property := by
  intro entry member
  cases member

end Workings.Cache
