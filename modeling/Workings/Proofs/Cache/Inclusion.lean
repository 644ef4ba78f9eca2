import Mathlib.Data.List.Perm.Subperm
import Workings.Proofs.Cache.Recency

/-!
# A larger cache does no worse

Of two caches that are given the same commands at the same times, the one with the larger limit
holds everything that the other one holds. They need not have used it at the same times, for a
look-up may find something in the larger cache alone. But what the smaller one holds was used in the
same order in both, and the larger one is not full before the smaller one is. So what the larger one
gives up, the smaller one gives up as well, if it has it.
-/

namespace Workings.Cache

variable {Content : Type}

/-! ## Entries among others -/

/-- Two entries that hold the same value of the same key, put in at the same time. -/
structure Entry.Alike (left right : Entry Content) : Prop where
  key_eq : left.key = right.key
  value_eq : left.value = right.value
  madeAt_eq : left.madeAt = right.madeAt

/-- The inner entries have others like them among the outer ones, and these were used in the same
order. -/
structure Nested (inner outer : List (Entry Content)) : Prop where
  held : ∀ entry ∈ inner, ∃ other ∈ outer, entry.Alike other
  order : ∀ left ∈ inner, ∀ right ∈ inner, left.lastUse < right.lastUse →
    ∀ left' ∈ outer, ∀ right' ∈ outer, left.key = left'.key → right.key = right'.key →
      left'.lastUse < right'.lastUse

variable {inner outer : List (Entry Content)}

/-- No entries are among all others. -/
theorem nested_nil (outer : List (Entry Content)) : Nested [] outer := by
  constructor <;> simp

/-- Entries that stay are among those that stay, if none of the others goes alone. -/
theorem Nested.filter (nested : Nested inner outer) {stays stays' : Entry Content → Bool}
    (together : ∀ entry ∈ inner, ∀ other ∈ outer, entry.Alike other → stays entry → stays' other) :
    Nested (inner.filter stays) (outer.filter stays') where
  held entry member := by
    obtain ⟨isIn, entryStays⟩ := List.mem_filter.1 member
    obtain ⟨other, otherIn, alike⟩ := nested.held entry isIn
    exact ⟨other, List.mem_filter.2 ⟨otherIn, together entry isIn other otherIn alike entryStays⟩,
      alike⟩
  order left leftIn right rightIn less left' leftIn' right' rightIn' :=
    nested.order left (List.mem_filter.1 leftIn).1 right (List.mem_filter.1 rightIn).1 less
      left' (List.mem_filter.1 leftIn').1 right' (List.mem_filter.1 rightIn').1

/-- Dropping a key from both sides leaves the inner entries among the outer ones. -/
theorem Nested.others (nested : Nested inner outer) (key : String) :
    Nested (others inner key) (others outer key) := by
  refine nested.filter fun entry _ other _ alike stays => ?_
  rwa [← alike.key_eq]

/-- Like entries that are used on both sides become the last ones used on both sides. -/
theorem Nested.use (nested : Nested inner outer) {entry other : Entry Content}
    (alike : entry.Alike other) (latest : ∀ left ∈ inner, left.lastUse < entry.lastUse)
    (latest' : ∀ left ∈ outer, left.lastUse < other.lastUse) :
    Nested (keep inner entry) (keep outer other) where
  held candidate member := by
    rcases mem_keep.1 member with ⟨kept, otherKey⟩ | rfl
    · obtain ⟨counterpart, isIn, same⟩ := nested.held candidate kept
      refine ⟨counterpart, mem_keep.2 (.inl ⟨isIn, ?_⟩), same⟩
      rwa [← same.key_eq, ← alike.key_eq]
    · exact ⟨other, mem_keep.2 (.inr rfl), alike⟩
  order left leftIn right rightIn less left' leftIn' right' rightIn' leftKey rightKey := by
    have leftKept : left ∈ inner ∧ left.key ≠ entry.key := by
      rcases mem_keep.1 leftIn with kept | rfl
      · exact kept
      · rcases mem_keep.1 rightIn with ⟨rightKept, -⟩ | rfl
        · exact absurd (latest right rightKept) (Nat.lt_asymm less)
        · exact absurd less (Nat.lt_irrefl _)
    have leftKept' : left' ∈ outer := by
      rcases mem_keep.1 leftIn' with ⟨kept, -⟩ | rfl
      · exact kept
      · exact absurd (leftKey.trans alike.key_eq.symm) leftKept.2
    rcases mem_keep.1 rightIn' with ⟨rightKept', differs⟩ | rfl
    · rcases mem_keep.1 rightIn with ⟨rightKept, -⟩ | rfl
      · exact nested.order left leftKept.1 right rightKept less left' leftKept' right' rightKept'
          leftKey rightKey
      · exact absurd (rightKey.symm.trans alike.key_eq) differs
    · exact latest' left' leftKept'

/-- Outer entries may be used or replaced if there is no inner one of their key. -/
theorem Nested.use_outer (nested : Nested inner outer) {other : Entry Content}
    (absent : ∀ entry ∈ inner, entry.key ≠ other.key) : Nested inner (keep outer other) where
  held entry member := by
    obtain ⟨counterpart, isIn, alike⟩ := nested.held entry member
    refine ⟨counterpart, mem_keep.2 (.inl ⟨isIn, ?_⟩), alike⟩
    rw [← alike.key_eq]
    exact absent entry member
  order left leftIn right rightIn less left' leftIn' right' rightIn' leftKey rightKey := by
    have kept {entry entry' : Entry Content} (isIn : entry ∈ inner)
        (isIn' : entry' ∈ keep outer other) (same : entry.key = entry'.key) : entry' ∈ outer := by
      rcases mem_keep.1 isIn' with ⟨inOuter, -⟩ | rfl
      · exact inOuter
      · exact absurd same (absent entry isIn)
    exact nested.order left leftIn right rightIn less left' (kept leftIn leftIn' leftKey)
      right' (kept rightIn rightIn' rightKey) leftKey rightKey

/-- Where the inner entry that was used first goes, the outer one that was used first may go as
well. -/
theorem Nested.giveUp (nested : Nested inner outer) {victim victim' : Entry Content}
    (member : victim ∈ inner) (oldest : ∀ entry ∈ inner, entry ≠ victim →
      victim.lastUse < entry.lastUse)
    (member' : victim' ∈ outer) (oldest' : ∀ other ∈ outer, victim'.lastUse ≤ other.lastUse) :
    Nested (Cache.others inner victim.key) (Cache.others outer victim'.key) := by
  refine nested.filter fun entry isIn other otherIn alike stays => ?_
  simp only [ne_eq, decide_not, Bool.not_eq_true', decide_eq_false_iff_not] at stays ⊢
  intro sameKey
  obtain ⟨counterpart, counterpartIn, victimAlike⟩ := nested.held victim member
  have older := oldest entry isIn fun same => stays (congrArg Entry.key same)
  have less := nested.order victim member entry isIn older counterpart counterpartIn victim' member'
    victimAlike.key_eq (alike.key_eq.trans sameKey)
  exact absurd (oldest' counterpart counterpartIn) (Nat.not_le.2 less)

/-- Of entries that go on both sides together, no more go from the inner ones than from the outer
ones. -/
theorem Nested.length_filter (nested : Nested inner outer)
    (distinct : (inner.map Entry.key).Nodup) {stays stays' : Entry Content → Bool}
    (together : ∀ entry ∈ inner, ∀ other ∈ outer, entry.Alike other → stays' other → stays entry) :
    inner.length + (outer.filter stays').length ≤ outer.length + (inner.filter stays).length := by
  have fewer : ((inner.filter fun entry => !stays entry).map Entry.key).length
      ≤ ((outer.filter fun other => !stays' other).map Entry.key).length := by
    refine (List.Nodup.subperm (distinct.sublist (List.filter_sublist.map _)) ?_).length_le
    intro key isKey
    obtain ⟨entry, member, rfl⟩ := List.mem_map.1 isKey
    obtain ⟨isIn, goes⟩ := List.mem_filter.1 member
    obtain ⟨other, otherIn, alike⟩ := nested.held entry isIn
    refine List.mem_map.2 ⟨other, List.mem_filter.2 ⟨otherIn, ?_⟩, alike.key_eq.symm⟩
    have otherGoes := mt (together entry isIn other otherIn alike)
    simpa using otherGoes (by simpa using goes)
  have innerParts := List.length_eq_length_filter_add (l := inner) stays
  have outerParts := List.length_eq_length_filter_add (l := outer) stays'
  rw [List.length_map, List.length_map] at fewer
  omega

/-! ## What commands keep -/

/-- The larger cache holds what the smaller one holds, and has at least as much room left. -/
structure Includes (small large : Cache Content) : Prop where
  nested : Nested small.entries large.entries
  spare : small.limit + large.size ≤ large.limit + small.size

variable {limit limit' lifetime : Nat} {history history' : History Content}
  {keys keys' : List String} {small large : Cache Content}

/-- Entries alike expire together in caches of one lifetime. -/
theorem hasExpired_eq_of_alike (kept : Kept limit lifetime history keys small)
    (kept' : Kept limit' lifetime history' keys' large) (now : Nat) {entry other : Entry Content}
    (alike : entry.Alike other) : small.hasExpired now entry = large.hasExpired now other := by
  rw [hasExpired, hasExpired, kept.lifetime_eq, kept'.lifetime_eq, alike.madeAt_eq]

/-- The entry that a key has in the smaller cache has one like it in the larger one. -/
theorem Includes.peek? (includes : Includes small large)
    (kept' : Kept limit' lifetime history' keys' large) {key : String} {entry : Entry Content}
    (found : small.peek? key = some entry) :
    ∃ other, large.peek? key = some other ∧ entry.Alike other := by
  obtain ⟨member, rfl⟩ := mem_of_peek? found
  obtain ⟨other, isIn, alike⟩ := includes.nested.held entry member
  refine ⟨other, ?_, alike⟩
  cases found' : large.peek? entry.key with
  | none => exact absurd alike.key_eq.symm (peek?_eq_none_iff.1 found' other isIn)
  | some counterpart =>
    obtain ⟨counterpartIn, sameKey⟩ := mem_of_peek? found'
    rw [List.inj_on_of_nodup_map kept'.recorded.distinct counterpartIn isIn
      (sameKey.trans alike.key_eq)]

/-- Dropping a key from both caches keeps the one included in the other. -/
theorem Includes.others (includes : Includes small large)
    (kept : Kept limit lifetime history keys small) (key : String) :
    Nested (Cache.others small.entries key) (Cache.others large.entries key)
      ∧ small.limit + (Cache.others large.entries key).length
        ≤ large.limit + (Cache.others small.entries key).length := by
  refine ⟨includes.nested.others key, ?_⟩
  have lengths : small.entries.length + (Cache.others large.entries key).length
      ≤ large.entries.length + (Cache.others small.entries key).length := by
    refine includes.nested.length_filter kept.recorded.distinct
      fun entry _ other _ alike stays => ?_
    rwa [alike.key_eq]
  have spare := includes.spare
  simp only [size] at spare
  omega

/-- A look-up keeps the smaller cache included. -/
theorem Includes.get (includes : Includes small large)
    (kept : Kept limit lifetime history keys small)
    (kept' : Kept limit' lifetime history' keys' large) (now : Nat) (key : String) :
    Includes (small.get now key).2 (large.get now key).2 := by
  have dropped := includes.others kept key
  cases found : small.peek? key with
  | none =>
    have absent := peek?_eq_none_iff.1 found
    rw [others_eq_self absent] at dropped
    simp only [Cache.get, found]
    split
    · exact ⟨includes.nested, includes.spare⟩
    · rename_i other found'
      obtain ⟨isIn, rfl⟩ := mem_of_peek? found'
      split
      · exact ⟨dropped.1, dropped.2⟩
      · let used : Entry Content :=
          { other with uses := other.uses + 1, lastUse := large.clock + 1 }
        have length_eq := length_keep_of_mem kept'.recorded.distinct isIn used rfl
        refine ⟨includes.nested.use_outer absent, ?_⟩
        change small.limit + (keep large.entries used).length ≤ large.limit + small.size
        rw [length_eq]
        exact includes.spare
  | some entry =>
    obtain ⟨other, found', alike⟩ := includes.peek? kept' found
    obtain ⟨member, rfl⟩ := mem_of_peek? found
    obtain ⟨isIn, sameKey⟩ := mem_of_peek? found'
    simp only [Cache.get, found, found', hasExpired_eq_of_alike kept kept' now alike]
    split
    · exact ⟨dropped.1, dropped.2⟩
    · let used : Entry Content := { entry with uses := entry.uses + 1, lastUse := small.clock + 1 }
      let used' : Entry Content := { other with uses := other.uses + 1, lastUse := large.clock + 1 }
      have usedAlike : used.Alike used' := ⟨alike.key_eq, alike.value_eq, alike.madeAt_eq⟩
      have length_eq := length_keep_of_mem kept.recorded.distinct member used rfl
      have length_eq' := length_keep_of_mem kept'.recorded.distinct isIn used' rfl
      have spare := includes.spare
      refine ⟨includes.nested.use usedAlike ?_ ?_, ?_⟩
      · exact fun left leftIn => Nat.lt_succ_of_le (kept.recorded.lastUse_le left leftIn)
      · exact fun left leftIn => Nat.lt_succ_of_le (kept'.recorded.lastUse_le left leftIn)
      · change small.limit + (keep large.entries used').length
          ≤ large.limit + (keep small.entries used).length
        rwa [length_eq, length_eq']

/-- A cache has as many entries after room was made for a new key as before, or one fewer if it was
full. -/
theorem Kept.size_makeRoom (kept : Kept limit lifetime history keys small) {key : String}
    (absent : small.peek? key = none) (room : limit ≠ 0) :
    (small.makeRoom key).size = min small.size (limit - 1) := by
  by_cases full : small.size = limit
  · obtain ⟨victim, member, -, entries_eq⟩ := kept.makeRoom_of_full absent full room
    have one_more := (perm_cons_others kept.recorded.distinct member).length_eq
    rw [List.length_cons, ← entries_eq] at one_more
    simp only [size] at full ⊢
    omega
  · have less : small.size < limit := Nat.lt_of_le_of_ne kept.size_le full
    have unchanged : small.makeRoom key = small := by
      simp [Cache.makeRoom, kept.limit_eq, Nat.not_le.2 less]
    rw [unchanged]
    omega

/-- How many entries a cache has after a put. -/
theorem Kept.size_put (kept : Kept limit lifetime history keys small) (room : limit ≠ 0)
    (now : Nat) (key : String) (value : Content) :
    (small.put now key value).size
      = if (small.peek? key).isSome then small.size else min (small.size + 1) limit := by
  have hasRoom : small.limit ≠ 0 := by rwa [kept.limit_eq]
  obtain ⟨fresh, ⟨rfl, rfl, rfl⟩, -, put_eq⟩ := put_of_room hasRoom now key value
  rw [put_eq]
  cases found : small.peek? fresh.key with
  | none =>
    have absent := peek?_eq_none_iff.1 (peek?_makeRoom found)
    have size_eq := kept.size_makeRoom found room
    simp only [size] at size_eq
    simp only [size, length_keep_of_absent absent, size_eq, Option.isSome_none, Bool.false_eq_true,
      if_false]
    omega
  | some entry =>
    obtain ⟨member, sameKey⟩ := mem_of_peek? found
    simp only [size, makeRoom_eq_self found,
      length_keep_of_mem kept.recorded.distinct member fresh sameKey.symm, Option.isSome_some,
      if_true]

/-- Room is made in the smaller cache whenever it is made in the larger one, and what the larger one
gives up for it is gone from the smaller one too. -/
theorem Includes.makeRoom (includes : Includes small large)
    (kept : Kept limit lifetime history keys small)
    (kept' : Kept limit' lifetime history' keys' large) (room : limit ≠ 0) (key : String) :
    Nested (small.makeRoom key).entries (large.makeRoom key).entries := by
  have nested : Nested (small.makeRoom key).entries large.entries := by
    have subset (entry : Entry Content) (member : entry ∈ (small.makeRoom key).entries) :=
      mem_of_mem_makeRoom member
    exact ⟨fun entry member => includes.nested.held entry (subset entry member),
      fun left leftIn right rightIn => includes.nested.order left (subset left leftIn) right
        (subset right rightIn)⟩
  cases found' : large.peek? key with
  | some other => rwa [makeRoom_eq_self found']
  | none =>
    by_cases full' : large.size = limit'
    · have absent : small.peek? key = none := by
        cases found : small.peek? key with
        | none => rfl
        | some entry =>
          obtain ⟨other, counterpart, -⟩ := includes.peek? kept' found
          rw [found'] at counterpart
          contradiction
      have full : small.size = limit := by
        have spare := includes.spare
        have size_le := kept.size_le
        rw [kept.limit_eq, kept'.limit_eq] at spare
        omega
      have needed : (small.peek? key).isNone && small.limit ≤ small.size := by
        simp [absent, kept.limit_eq, full]
      have needed' : (large.peek? key).isNone && large.limit ≤ large.size := by
        simp [found', kept'.limit_eq, full']
      rw [Cache.makeRoom, if_pos needed, Cache.makeRoom, if_pos needed']
      cases smallest : leastRecent? small.entries with
      | none =>
        have isEmpty := leastRecent?_eq_none_iff.1 smallest
        rw [size, isEmpty, List.length_nil] at full
        exact absurd full.symm room
      | some victim =>
        obtain ⟨member, least⟩ := leastRecent?_spec smallest
        cases smallest' : leastRecent? large.entries with
        | none =>
          obtain ⟨other, isIn, -⟩ := includes.nested.held victim member
          rw [leastRecent?_eq_none_iff.1 smallest'] at isIn
          contradiction
        | some victim' =>
          obtain ⟨member', least'⟩ := leastRecent?_spec smallest'
          refine includes.nested.giveUp member (fun entry isIn different => ?_) member' least'
          refine Nat.lt_of_le_of_ne (least entry isIn) fun same => different ?_
          exact kept.recorded.lastUse_inj entry isIn victim member same.symm
    · have less : large.size < limit' := Nat.lt_of_le_of_ne kept'.size_le full'
      have unchanged : large.makeRoom key = large := by
        simp [Cache.makeRoom, kept'.limit_eq, Nat.not_le.2 less]
      rwa [unchanged]

/-- A put keeps the smaller cache included. -/
theorem Includes.put (includes : Includes small large) (limit_le : limit ≤ limit')
    (kept : Kept limit lifetime history keys small)
    (kept' : Kept limit' lifetime history' keys' large) (now : Nat) (key : String)
    (value : Content) : Includes (small.put now key value) (large.put now key value) := by
  have limit_eq := (kept.put now key value).limit_eq
  have limit_eq' := (kept'.put now key value).limit_eq
  have size_le' := (kept'.put now key value).size_le
  by_cases room : limit = 0
  · -- the smaller cache has no room at all
    have size_le := (kept.put now key value).size_le
    have isEmpty : (small.put now key value).entries = [] :=
      List.length_eq_zero_iff.1 (Nat.le_zero.1 (room ▸ size_le))
    refine ⟨isEmpty ▸ nested_nil _, ?_⟩
    omega
  · have room' : limit' ≠ 0 := by omega
    have nested := includes.makeRoom kept kept' room key
    constructor
    · have hasRoom : small.limit ≠ 0 := by rwa [kept.limit_eq]
      have hasRoom' : large.limit ≠ 0 := by rwa [kept'.limit_eq]
      obtain ⟨fresh, ⟨key_eq, value_eq, madeAt_eq⟩, counted, put_eq⟩ :=
        put_of_room hasRoom now key value
      obtain ⟨fresh', ⟨key_eq', value_eq', madeAt_eq'⟩, counted', put_eq'⟩ :=
        put_of_room hasRoom' now key value
      have alike : fresh.Alike fresh' :=
        ⟨key_eq.trans key_eq'.symm, value_eq.trans value_eq'.symm, madeAt_eq.trans madeAt_eq'.symm⟩
      rw [put_eq, put_eq']
      refine nested.use alike ?_ ?_
      · intro left leftIn
        have lastUse_le := (kept.makeRoom key).recorded.lastUse_le left leftIn
        omega
      · intro left leftIn
        have lastUse_le := (kept'.makeRoom key).recorded.lastUse_le left leftIn
        omega
    · have spare := includes.spare
      have size_le := kept.size_le
      have isHeld : (small.peek? key).isSome → (large.peek? key).isSome := by
        intro isSome
        obtain ⟨entry, found⟩ := Option.isSome_iff_exists.1 isSome
        obtain ⟨other, found', -⟩ := includes.peek? kept' found
        rw [found']
        rfl
      rw [kept.limit_eq, kept'.limit_eq] at spare
      rw [limit_eq, limit_eq', kept.size_put room, kept'.size_put room']
      by_cases isSome : (small.peek? key).isSome
      · rwa [if_pos isSome, if_pos (isHeld isSome)]
      · rw [if_neg isSome]
        split <;> omega

/-- Every command keeps the smaller cache included. -/
theorem Includes.perform (includes : Includes small large) (limit_le : limit ≤ limit')
    (kept : Kept limit lifetime history keys small)
    (kept' : Kept limit' lifetime history' keys' large) (now : Nat) (command : Command Content) :
    Includes (small.perform now command).2 (large.perform now command).2 := by
  cases command with
  | get key => exact includes.get kept kept' now key
  | put key value => exact includes.put limit_le kept kept' now key value
  | remove key =>
    obtain ⟨nested, spare⟩ := includes.others kept key
    exact ⟨nested, spare⟩
  | contains key | peek key => exact includes
  | clear =>
    refine ⟨nested_nil _, ?_⟩
    simpa [Cache.perform, Cache.clear, size, kept.limit_eq, kept'.limit_eq] using limit_le
  | purge =>
    have together {entry other : Entry Content} (alike : entry.Alike other) :=
      hasExpired_eq_of_alike kept kept' now alike
    constructor
    · refine includes.nested.filter fun entry _ other _ alike stays => ?_
      rwa [← together alike]
    · have lengths : small.entries.length
            + (large.entries.filter fun entry => !large.hasExpired now entry).length
          ≤ large.entries.length
            + (small.entries.filter fun entry => !small.hasExpired now entry).length := by
        refine includes.nested.length_filter kept.recorded.distinct
          fun entry _ other _ alike stays => ?_
        rwa [together alike]
      have spare := includes.spare
      simp only [Cache.perform, purge, size] at spare ⊢
      omega

/-- A whole session keeps the smaller cache included. -/
theorem Includes.run (includes : Includes small large) (limit_le : limit ≤ limit')
    (kept : Kept limit lifetime history keys small)
    (kept' : Kept limit' lifetime history' keys' large) (commands : History Content) :
    Includes (small.run commands).2 (large.run commands).2 := by
  induction commands generalizing small large history history' keys keys' with
  | nil => exact includes
  | cons step rest hypothesis =>
    obtain ⟨now, command⟩ := step
    exact hypothesis (includes.perform limit_le kept kept' now command) (kept.perform now command)
      (kept'.perform now command)

/-- What a look-up finds in the smaller cache it finds in the larger one. -/
theorem Includes.get_eq_some (includes : Includes small large)
    (kept : Kept limit lifetime history keys small)
    (kept' : Kept limit' lifetime history' keys' large) {now : Nat} {key : String} {value : Content}
    (hit : (small.get now key).1 = some value) : (large.get now key).1 = some value := by
  cases found : small.peek? key with
  | none => simp [Cache.get, found] at hit
  | some entry =>
    obtain ⟨other, found', alike⟩ := includes.peek? kept' found
    simp only [Cache.get, found, found', hasExpired_eq_of_alike kept kept' now alike] at hit ⊢
    split at hit
    · contradiction
    · rename_i alive
      rw [if_neg alive]
      exact alike.value_eq ▸ hit

/-- After the same commands at the same times, a cache holds every entry that one with a smaller
limit holds, with the same value and put in at the same time. So whatever a look-up finds in the
smaller one it finds in the larger one. -/
theorem run_includes {limit limit' : Nat} (limit_le : limit ≤ limit') (lifetime : Nat)
    (sizer : Content → Nat) (history : History Content) :
    let small := ((empty limit lifetime sizer).run history).2
    let large := ((empty limit' lifetime sizer).run history).2
    (∀ entry ∈ small.entries, ∃ other ∈ large.entries,
        other.key = entry.key ∧ other.value = entry.value ∧ other.madeAt = entry.madeAt)
      ∧ ∀ now key value, (small.get now key).1 = some value →
        (large.get now key).1 = some value := by
  have begun : Includes (empty limit lifetime sizer) (empty limit' lifetime sizer) :=
    ⟨nested_nil _, by simpa [empty, size] using limit_le⟩
  have included := begun.run limit_le (kept_empty limit lifetime sizer)
    (kept_empty limit' lifetime sizer) history
  refine ⟨fun entry member => ?_, fun now key value hit => ?_⟩
  · obtain ⟨other, isIn, alike⟩ := included.nested.held entry member
    exact ⟨other, isIn, alike.key_eq.symm, alike.value_eq.symm, alike.madeAt_eq.symm⟩
  · exact included.get_eq_some ((kept_empty limit lifetime sizer).run history)
      ((kept_empty limit' lifetime sizer).run history) hit

/-- The look-up of `a` finds it in the larger cache alone, so that the two caches differ in what
they used last. -/
theorem run_includes_two :
    let history : History Nat :=
      [(0, .put "a" 1), (1, .put "b" 2), (2, .put "c" 3), (3, .get "a"), (4, .remove "b"),
        (5, .put "d" 4), (6, .put "e" 5)]
    (2 ≤ 3) ∧ (((empty 2 9 fun _ => 0).run history).2.get 7 "e").1 = some 5
      ∧ (((empty 3 9 fun _ => 0).run history).2.get 7 "e").1 = some 5 := by
  intro history
  have hit : (((empty 2 9 fun _ => 0).run history).2.get 7 "e").1 = some 5 := by decide
  exact ⟨by decide, hit, (run_includes (by decide) 9 (fun _ => 0) history).2 7 "e" 5 hit⟩

end Workings.Cache
