import Mathlib.Data.List.Basic
import Mathlib.Data.List.Nodup
import Mathlib.Data.List.Perm.Basic
import Workings.Cache.Session
import Workings.Proofs.Cache.Entries

/-!
# What a cache holds is told by its history

The commands that a cache was given, and which of them found something, say what it holds: the value
of the latest put of each key, and which key was used before which. The counts that entries bear are
right as long as no two of them are the same and none is ahead of the clock. Every command keeps it
so, whatever the times are. The entry with the smallest count is therefore the one whose last use is
the oldest.
-/

namespace Workings.Cache

variable {Content : Type}

/-! ## What a history tells -/

/-- Commands, each with the time at which it was given. -/
abbrev History (Content : Type) := List (Nat × Command Content)

/-- The time and the value of a put of the given key. -/
def putOf? (key : String) : Nat × Command Content → Option (Nat × Content)
  | (now, .put other value) => if other = key then some (now, value) else none
  | _ => none

/-- The time and the value of the latest put of a key. -/
def latestPut? (key : String) (history : History Content) : Option (Nat × Content) :=
  history.reverse.findSome? (putOf? key)

/-- The key that a command used: a put uses its key, and so does a look-up that found a value. -/
def usedKey? : Command Content → Reply Content → Option String
  | .put key _, _ => some key
  | .get key, .value (some _) => some key
  | _, _ => none

/-- The keys that a history used, the latest use last. -/
def usedKeys (cache : Cache Content) (history : History Content) : List String :=
  (history.zip (cache.run history).1).filterMap fun (step, reply) => usedKey? step.2 reply

/-- A key was used since the last use of another one. -/
def UsedSince (keys : List String) (older newer : String) : Prop :=
  ∃ earlier later, keys = earlier ++ later ∧ newer ∈ later ∧ older ∉ later

/-- The latest put of a key is the last command, if that is one, and else that of the history
before. -/
theorem latestPut?_append (key : String) (history : History Content)
    (step : Nat × Command Content) :
    latestPut? key (history ++ [step]) = (putOf? key step).or (latestPut? key history) := by
  simp [latestPut?, List.findSome?_cons, Option.or]
  cases putOf? key step <;> rfl

/-- The use of another key does not make a key older than one that was used since. -/
theorem UsedSince.append {keys : List String} {older newer key : String}
    (since : UsedSince keys older newer) (different : older ≠ key) :
    UsedSince (keys ++ [key]) older newer := by
  obtain ⟨earlier, later, rfl, used, unused⟩ := since
  refine ⟨earlier, later ++ [key], by simp, by simp [used], ?_⟩
  simp [unused, different]

/-- The key that was used last was used since every other one. -/
theorem usedSince_last {keys : List String} {older key : String} (different : older ≠ key) :
    UsedSince (keys ++ [key]) older key :=
  ⟨keys, [key], rfl, by simp, by simpa using different⟩

/-! ## Entries -/

variable {entries : List (Entry Content)} {entry : Entry Content} {key : String}

/-- There is an entry with the smallest count unless there is none at all. -/
theorem leastRecent?_eq_none_iff : leastRecent? entries = none ↔ entries = [] := by
  cases entries with
  | nil => simp [leastRecent?]
  | cons first rest =>
    simp only [leastRecent?, reduceCtorEq, iff_false]
    cases leastRecent? rest with
    | none => simp
    | some other => dsimp only; split <;> simp

/-- No entry has a smaller count than the one that is given up. -/
theorem leastRecent?_spec (found : leastRecent? entries = some entry) :
    entry ∈ entries ∧ ∀ other ∈ entries, entry.lastUse ≤ other.lastUse := by
  induction entries generalizing entry with
  | nil => contradiction
  | cons first rest hypothesis =>
    simp only [leastRecent?] at found
    cases smallest : leastRecent? rest with
    | none =>
      obtain rfl := leastRecent?_eq_none_iff.1 smallest
      simp_all
    | some other =>
      obtain ⟨member, least⟩ := hypothesis smallest
      simp only [smallest] at found
      split at found
      · rename_i first_le
        obtain rfl := Option.some.inj found
        refine ⟨List.mem_cons_self, List.forall_mem_cons.2 ⟨Nat.le_refl _, ?_⟩⟩
        exact fun candidate isIn => Nat.le_trans first_le (least candidate isIn)
      · rename_i other_lt
        obtain rfl := Option.some.inj found
        exact ⟨List.mem_cons_of_mem _ member,
          List.forall_mem_cons.2 ⟨Nat.le_of_lt (Nat.lt_of_not_le other_lt), least⟩⟩

/-- A key has no entry if none is found for it. -/
theorem peek?_eq_none_iff {cache : Cache Content} :
    cache.peek? key = none ↔ ∀ entry ∈ cache.entries, entry.key ≠ key := by
  simp [peek?]

/-- The entries of all other keys are all entries if the key has none. -/
theorem others_eq_self (absent : ∀ entry ∈ entries, entry.key ≠ key) :
    others entries key = entries :=
  List.filter_eq_self.2 fun entry member => by simpa using absent entry member

/-- Dropping an entry leaves all the others. -/
theorem perm_cons_others (distinct : (entries.map Entry.key).Nodup) (member : entry ∈ entries) :
    entries.Perm (entry :: others entries entry.key) := by
  have nodup : entries.Nodup := distinct.of_map
  refine (List.perm_ext_iff_of_nodup nodup ?_).2 fun other => ?_
  · exact List.nodup_cons.2 ⟨by simp, nodup.filter _⟩
  · rw [List.mem_cons, mem_others]
    constructor
    · intro otherMember
      by_cases sameKey : other.key = entry.key
      · exact .inl (List.inj_on_of_nodup_map distinct otherMember member sameKey)
      · exact .inr ⟨otherMember, sameKey⟩
    · rintro (rfl | ⟨otherMember, -⟩)
      · exact member
      · exact otherMember

/-- A new entry comes on top of the entries of all other keys. -/
theorem keep_perm (entries : List (Entry Content)) (entry : Entry Content) :
    (keep entries entry).Perm (entry :: others entries entry.key) :=
  List.perm_append_singleton _ _

/-! ## What is kept -/

/-- The entries are those that a history tells of, in which the given keys were used: each has the
value of the latest put of its key, and their counts, which the clock has reached, tell which was
used since which. -/
structure Recorded (history : History Content) (keys : List String) (clock : Nat)
    (entries : List (Entry Content)) : Prop where
  distinct : (entries.map Entry.key).Nodup
  lastUse_le : ∀ entry ∈ entries, entry.lastUse ≤ clock
  lastUse_inj : ∀ left ∈ entries, ∀ right ∈ entries, left.lastUse = right.lastUse → left = right
  usedSince : ∀ left ∈ entries, ∀ right ∈ entries, left.lastUse < right.lastUse →
    UsedSince keys left.key right.key
  latestPut : ∀ entry ∈ entries,
    latestPut? entry.key history = some (entry.madeAt, entry.value)

variable {history : History Content} {keys : List String} {clock : Nat}

/-- Nothing is recorded at the beginning. -/
theorem recorded_nil : Recorded history keys clock ([] : List (Entry Content)) := by
  constructor <;> simp

/-- Dropping entries leaves the others recorded. -/
theorem Recorded.filter (recorded : Recorded history keys clock entries)
    (stays : Entry Content → Bool) : Recorded history keys clock (entries.filter stays) := by
  have member {entry : Entry Content} (isIn : entry ∈ entries.filter stays) : entry ∈ entries :=
    (List.mem_filter.1 isIn).1
  exact
    { distinct := recorded.distinct.sublist (List.filter_sublist.map Entry.key)
      lastUse_le := fun entry isIn => recorded.lastUse_le entry (member isIn)
      lastUse_inj := fun left leftIn right rightIn =>
        recorded.lastUse_inj left (member leftIn) right (member rightIn)
      usedSince := fun left leftIn right rightIn =>
        recorded.usedSince left (member leftIn) right (member rightIn)
      latestPut := fun entry isIn => recorded.latestPut entry (member isIn) }

/-- A command that puts nothing in leaves the entries recorded. -/
theorem Recorded.wait (recorded : Recorded history keys clock entries)
    (step : Nat × Command Content) (noPut : ∀ key, putOf? key step = none) :
    Recorded (history ++ [step]) keys clock entries where
  distinct := recorded.distinct
  lastUse_le := recorded.lastUse_le
  lastUse_inj := recorded.lastUse_inj
  usedSince := recorded.usedSince
  latestPut entry member := by
    rw [latestPut?_append, noPut, Option.none_or, recorded.latestPut entry member]

/-- An entry that is used gets the next count, and is recorded as the one that was used last. -/
theorem Recorded.use {later : History Content} (recorded : Recorded history keys clock entries)
    (entry : Entry Content) (counted : entry.lastUse = clock + 1)
    (latest : latestPut? entry.key later = some (entry.madeAt, entry.value))
    (unchanged : ∀ key, key ≠ entry.key → latestPut? key later = latestPut? key history) :
    Recorded later (keys ++ [entry.key]) (clock + 1) (keep entries entry) where
  distinct := by
    refine ((keep_perm entries entry).map Entry.key).nodup_iff.2 ?_
    refine List.nodup_cons.2 ⟨by simp, ?_⟩
    exact recorded.distinct.sublist (List.filter_sublist.map Entry.key)
  lastUse_le other member := by
    rcases mem_keep.1 member with ⟨kept, -⟩ | rfl
    · exact Nat.le_succ_of_le (recorded.lastUse_le other kept)
    · exact Nat.le_of_eq counted
  lastUse_inj left leftMember right rightMember same := by
    -- No other entry has reached the new count, so it tells the new entry from all others.
    rcases mem_keep.1 leftMember with ⟨leftKept, -⟩ | rfl <;>
      rcases mem_keep.1 rightMember with ⟨rightKept, -⟩ | rfl
    · exact recorded.lastUse_inj left leftKept right rightKept same
    · have left_le := recorded.lastUse_le left leftKept
      omega
    · have right_le := recorded.lastUse_le right rightKept
      omega
    · rfl
  usedSince left leftMember right rightMember less := by
    rcases mem_keep.1 leftMember with ⟨leftKept, leftOther⟩ | rfl <;>
      rcases mem_keep.1 rightMember with ⟨rightKept, -⟩ | rfl
    · exact (recorded.usedSince left leftKept right rightKept less).append leftOther
    · exact usedSince_last leftOther
    · have right_le := recorded.lastUse_le right rightKept
      omega
    · exact absurd less (Nat.lt_irrefl _)
  latestPut other member := by
    rcases mem_keep.1 member with ⟨kept, otherKey⟩ | rfl
    · rw [unchanged other.key otherKey, recorded.latestPut other kept]
    · exact latest

/-! ## What commands keep -/

/-- A cache of the given limit and lifetime that holds what a history tells of. -/
structure Kept (limit lifetime : Nat) (history : History Content) (keys : List String)
    (cache : Cache Content) : Prop where
  limit_eq : cache.limit = limit
  lifetime_eq : cache.lifetime = lifetime
  size_le : cache.size ≤ limit
  recorded : Recorded history keys cache.clock cache.entries

variable {limit lifetime : Nat} {cache : Cache Content}

/-- An empty cache holds nothing, as an empty history tells. -/
theorem kept_empty (limit lifetime : Nat) (sizer : Content → Nat) :
    Kept limit lifetime [] [] (empty limit lifetime sizer) :=
  ⟨rfl, rfl, Nat.zero_le _, recorded_nil⟩

/-- The place of an entry is taken by a new one of the same key. -/
theorem length_keep_of_mem (distinct : (entries.map Entry.key).Nodup) (member : entry ∈ entries)
    (fresh : Entry Content) (sameKey : fresh.key = entry.key) :
    (keep entries fresh).length = entries.length := by
  rw [(keep_perm entries fresh).length_eq, (perm_cons_others distinct member).length_eq, sameKey]
  rfl

/-- A new entry of a key that has none comes on top of all entries. -/
theorem length_keep_of_absent (absent : ∀ other ∈ entries, other.key ≠ entry.key) :
    (keep entries entry).length = entries.length + 1 := by
  rw [(keep_perm entries entry).length_eq, others_eq_self absent]
  rfl

/-- A look-up keeps the cache as its history tells, with one more use if it finds a value. -/
theorem Kept.get (kept : Kept limit lifetime history keys cache) (now : Nat) (key : String) :
    Kept limit lifetime (history ++ [(now, Command.get key)])
      (keys ++ (usedKey? (.get key) (.value (cache.get now key).1)).toList)
      (cache.get now key).2 := by
  obtain ⟨limit_eq, lifetime_eq, size_le, recorded⟩ := kept
  have waited : Recorded (history ++ [(now, Command.get key)]) keys cache.clock cache.entries :=
    recorded.wait _ fun _ => rfl
  unfold Cache.get
  split
  · simpa [usedKey?] using ⟨limit_eq, lifetime_eq, size_le, waited⟩
  · rename_i entry found
    obtain ⟨member, rfl⟩ := mem_of_peek? found
    split
    · have shorter : (others cache.entries entry.key).length ≤ cache.entries.length :=
        List.length_filter_le _ _
      simpa [usedKey?] using
        ⟨limit_eq, lifetime_eq, Nat.le_trans shorter size_le, waited.filter _⟩
    · let used : Entry Content :=
        { entry with uses := entry.uses + 1, lastUse := cache.clock + 1 }
      refine ⟨limit_eq, lifetime_eq, ?_, ?_⟩
      · rw [size, length_keep_of_mem recorded.distinct member used rfl]
        exact size_le
      · exact waited.use used rfl (waited.latestPut entry member) fun _ _ => rfl

/-- Room is made for a new key, if there is any room at all. -/
theorem Kept.makeRoom (kept : Kept limit lifetime history keys cache) (key : String) :
    Kept limit lifetime history keys (cache.makeRoom key) := by
  obtain ⟨limit_eq, lifetime_eq, size_le, recorded⟩ := kept
  unfold Cache.makeRoom
  split
  · split
    · exact ⟨limit_eq, lifetime_eq, size_le, recorded⟩
    · refine ⟨limit_eq, lifetime_eq, ?_, recorded.filter _⟩
      exact Nat.le_trans (List.length_filter_le _ _) size_le
  · exact ⟨limit_eq, lifetime_eq, size_le, recorded⟩

/-- What making room for a new key does in a full cache: the least recently used entry goes, and all
others stay. -/
theorem Kept.makeRoom_of_full (kept : Kept limit lifetime history keys cache)
    (absent : cache.peek? key = none) (full : cache.size = limit) (room : limit ≠ 0) :
    ∃ victim ∈ cache.entries, (∀ other ∈ cache.entries, other ≠ victim →
        UsedSince keys victim.key other.key)
      ∧ (cache.makeRoom key).entries = others cache.entries victim.key := by
  obtain ⟨limit_eq, -, -, recorded⟩ := kept
  have nonempty : cache.entries ≠ [] := by
    intro isEmpty
    simp [size, isEmpty] at full
    exact room full.symm
  cases smallest : leastRecent? cache.entries with
  | none => exact absurd (leastRecent?_eq_none_iff.1 smallest) nonempty
  | some victim =>
    obtain ⟨member, least⟩ := leastRecent?_spec smallest
    refine ⟨victim, member, ?_, ?_⟩
    · intro other otherMember different
      refine recorded.usedSince victim member other otherMember ?_
      refine Nat.lt_of_le_of_ne (least other otherMember) fun same => different ?_
      exact recorded.lastUse_inj other otherMember victim member same.symm
    · simp [Cache.makeRoom, absent, full, limit_eq, smallest]

/-- There is room for a new key after room was made for it. -/
theorem Kept.size_makeRoom_lt (kept : Kept limit lifetime history keys cache)
    (absent : cache.peek? key = none) (room : limit ≠ 0) : (cache.makeRoom key).size < limit := by
  by_cases full : cache.size = limit
  · obtain ⟨victim, member, -, entries_eq⟩ := kept.makeRoom_of_full absent full room
    have one_more := (perm_cons_others kept.recorded.distinct member).length_eq
    rw [List.length_cons, ← entries_eq] at one_more
    simp only [size] at full ⊢
    omega
  · have less : cache.size < limit := Nat.lt_of_le_of_ne kept.size_le full
    have unchanged : cache.makeRoom key = cache := by
      simp [Cache.makeRoom, kept.limit_eq, Nat.not_le.2 less]
    rwa [unchanged]

/-- Making room for a key keeps the entry that the key has. -/
theorem makeRoom_eq_self (found : cache.peek? key = some entry) : cache.makeRoom key = cache := by
  simp [makeRoom, found]

/-- Making room for a new key leaves entries of the cache. -/
theorem mem_of_mem_makeRoom (member : entry ∈ (cache.makeRoom key).entries) :
    entry ∈ cache.entries := by
  unfold makeRoom at member
  split at member
  · split at member
    · exact member
    · exact (mem_others.1 member).1
  · exact member

/-- Making room for a key that has no entry gives it none. -/
theorem peek?_makeRoom (absent : cache.peek? key = none) :
    (cache.makeRoom key).peek? key = none := by
  rw [peek?_eq_none_iff] at absent ⊢
  intro entry member
  exact absent entry (mem_of_mem_makeRoom member)

/-- What a put does in a cache that has room: the new entry comes on top of what is left when room
was made, with the next count. -/
theorem put_of_room (room : cache.limit ≠ 0) (now : Nat) (key : String) (value : Content) :
    ∃ fresh : Entry Content, (fresh.key = key ∧ fresh.value = value ∧ fresh.madeAt = now)
      ∧ fresh.lastUse = (cache.makeRoom key).clock + 1
      ∧ cache.put now key value =
        { cache.makeRoom key with
          entries := keep (cache.makeRoom key).entries fresh
          clock := (cache.makeRoom key).clock + 1 } := by
  refine ⟨⟨key, value, now, 0, cache.sizer value + key.utf8ByteSize,
    (cache.makeRoom key).clock + 1⟩, ⟨rfl, rfl, rfl⟩, rfl, ?_⟩
  rw [put, if_neg room]

/-- A put keeps the cache as its history tells, with one more use. -/
theorem Kept.put (kept : Kept limit lifetime history keys cache) (now : Nat) (key : String)
    (value : Content) :
    Kept limit lifetime (history ++ [(now, Command.put key value)]) (keys ++ [key])
      (cache.put now key value) := by
  have roomy := kept.makeRoom key
  by_cases room : cache.limit = 0
  · have isEmpty : cache.entries = [] := by
      have size_le := kept.size_le
      rw [← kept.limit_eq, room] at size_le
      exact List.length_eq_zero_iff.1 (Nat.le_zero.1 size_le)
    rw [Cache.put, if_pos room]
    exact ⟨kept.limit_eq, kept.lifetime_eq, kept.size_le, isEmpty ▸ recorded_nil⟩
  · obtain ⟨fresh, ⟨rfl, rfl, rfl⟩, counted, put_eq⟩ := put_of_room room now key value
    rw [put_eq]
    rw [kept.limit_eq] at room
    refine ⟨roomy.limit_eq, roomy.lifetime_eq, ?_, ?_⟩
    · cases found : cache.peek? fresh.key with
      | none =>
        have absent := peek?_eq_none_iff.1 (peek?_makeRoom found)
        rw [size, length_keep_of_absent absent]
        exact kept.size_makeRoom_lt found room
      | some entry =>
        obtain ⟨member, sameKey⟩ := mem_of_peek? found
        rw [size, makeRoom_eq_self found,
          length_keep_of_mem kept.recorded.distinct member fresh sameKey.symm]
        exact kept.size_le
    · refine roomy.recorded.use fresh counted ?_ fun other different => ?_
      · simp [latestPut?_append, putOf?]
      · simp [latestPut?_append, putOf?, different.symm]

/-- Every command keeps the cache as its history tells. -/
theorem Kept.perform (kept : Kept limit lifetime history keys cache) (now : Nat)
    (command : Command Content) :
    Kept limit lifetime (history ++ [(now, command)])
      (keys ++ (usedKey? command (cache.perform now command).1).toList)
      (cache.perform now command).2 := by
  have shorter (stays : Entry Content → Bool) : (cache.entries.filter stays).length ≤ limit :=
    Nat.le_trans (List.length_filter_le _ _) kept.size_le
  cases command with
  | get key => exact kept.get now key
  | put key value => exact kept.put now key value
  | remove key =>
    have waited := kept.recorded.wait (now, .remove key) fun _ => rfl
    simpa [usedKey?, Cache.perform, Cache.remove] using
      ⟨kept.limit_eq, kept.lifetime_eq, shorter _, waited.filter _⟩
  | clear =>
    simpa [usedKey?, Cache.perform, Cache.clear] using
      ⟨kept.limit_eq, kept.lifetime_eq, Nat.zero_le _, recorded_nil⟩
  | purge =>
    have waited := kept.recorded.wait (now, .purge) fun _ => rfl
    simpa [usedKey?, Cache.perform, Cache.purge] using
      ⟨kept.limit_eq, kept.lifetime_eq, shorter _, waited.filter _⟩
  | contains key =>
    have waited := kept.recorded.wait (now, .contains key) fun _ => rfl
    simpa [usedKey?, Cache.perform] using
      ⟨kept.limit_eq, kept.lifetime_eq, kept.size_le, waited⟩
  | peek key =>
    have waited := kept.recorded.wait (now, .peek key) fun _ => rfl
    simpa [usedKey?, Cache.perform] using
      ⟨kept.limit_eq, kept.lifetime_eq, kept.size_le, waited⟩

/-- The keys that a history used: that of its first command, if it used one, and those of the
others. -/
theorem usedKeys_cons (cache : Cache Content) (now : Nat) (command : Command Content)
    (rest : History Content) :
    usedKeys cache ((now, command) :: rest)
      = (usedKey? command (cache.perform now command).1).toList
        ++ usedKeys (cache.perform now command).2 rest := by
  simp only [usedKeys, run, List.zip_cons_cons, List.filterMap_cons]
  cases usedKey? command (cache.perform now command).1 <;> rfl

/-- A whole session keeps the cache as its history tells. -/
theorem Kept.run {past : History Content} (kept : Kept limit lifetime past keys cache)
    (history : History Content) :
    Kept limit lifetime (past ++ history) (keys ++ usedKeys cache history)
      (cache.run history).2 := by
  induction history generalizing past keys cache with
  | nil => simpa [Cache.run, usedKeys] using kept
  | cons step rest hypothesis =>
    obtain ⟨now, command⟩ := step
    have after := hypothesis (kept.perform now command)
    rw [usedKeys_cons]
    simpa [Cache.run] using after

/-! ## The laws of a cache -/

/-- Whether a command drops an entry: it names it to be removed, or the entry is too old and the
command comes upon it, or all entries are cleared, or a new key may take its room. -/
def Command.Drops (cache : Cache Content) (now : Nat) (entry : Entry Content) :
    Command Content → Prop
  | .remove key => key = entry.key
  | .get key => key = entry.key ∧ cache.hasExpired now entry
  | .purge => cache.hasExpired now entry
  | .clear => True
  | .put key _ => cache.peek? key = none ∧ cache.size = cache.limit
  | .contains _ | .peek _ => False

/-- The laws of a cache after a history in which the given keys were used. -/
structure Lawful (limit lifetime : Nat) (history : History Content) (keys : List String)
    (cache : Cache Content) : Prop where
  /-- The limit is kept. -/
  size_le : cache.size ≤ limit
  /-- No key has two entries. -/
  distinct : (cache.entries.map Entry.key).Nodup
  /-- A new key that finds the cache full takes the place of exactly one entry: the one such that
  every other was used since its last use. A cache that has no room at all stays empty. -/
  put_full : ∀ now key value, cache.peek? key = none → cache.size = limit →
    (limit = 0 ∧ (cache.put now key value).entries = [])
      ∨ ∃ victim fresh rest, cache.entries.Perm (victim :: rest)
        ∧ (∀ other ∈ rest, UsedSince keys victim.key other.key)
        ∧ (cache.put now key value).entries.Perm (fresh :: rest)
        ∧ fresh.key = key ∧ fresh.value = value ∧ fresh.madeAt = now
  /-- No other command makes an entry go, and none but a put of its key changes what it holds. -/
  stays : ∀ now command, ∀ entry ∈ cache.entries, ¬ command.Drops cache now entry →
    ∃ kept ∈ (cache.perform now command).2.entries, kept.key = entry.key
      ∧ (kept.value = entry.value ∧ kept.madeAt = entry.madeAt
        ∨ ∃ value, command = .put entry.key value ∧ kept.value = value ∧ kept.madeAt = now)
  /-- Where there is any room, a put gives its key an entry with the value and the time. -/
  stores : limit ≠ 0 → ∀ now key value, ∃ entry ∈ (cache.put now key value).entries,
    entry.key = key ∧ entry.value = value ∧ entry.madeAt = now
  /-- What a command drops is gone from the key; a put only makes room by dropping. -/
  drops : ∀ now command, (∀ key value, command ≠ .put key value) →
    ∀ entry ∈ cache.entries, command.Drops cache now entry →
      ∀ left ∈ (cache.perform now command).2.entries, left.key ≠ entry.key
  /-- Whatever is left was there before, unless the command was a put of it. -/
  comes : ∀ now command, ∀ left ∈ (cache.perform now command).2.entries,
    (∃ entry ∈ cache.entries, entry.key = left.key ∧ entry.value = left.value
        ∧ entry.madeAt = left.madeAt)
      ∨ command = .put left.key left.value ∧ left.madeAt = now
  /-- A look-up finds the value of the latest put of its key, as long as the key has an entry and
  the put is not too old, however often it was looked up. -/
  get_iff : ∀ now key value, (cache.get now key).1 = some value
    ↔ (∃ entry ∈ cache.entries, entry.key = key)
      ∧ ∃ madeAt, latestPut? key history = some (madeAt, value)
        ∧ (lifetime = 0 ∨ now - madeAt ≤ lifetime)
  /-- A cache contains the keys that a look-up would find a value for. -/
  contains_eq : ∀ now key, cache.contains now key = (cache.get now key).1.isSome
  /-- Asking whether a key is contained changes nothing. -/
  contains_keeps : ∀ now key, (cache.perform now (.contains key)).2 = cache
  /-- Peeking at an entry changes nothing. -/
  peek_keeps : ∀ now key, (cache.perform now (.peek key)).2 = cache

/-- A new key that finds a cache full takes the place of the entry whose last use is the oldest. -/
theorem Kept.put_full (kept : Kept limit lifetime history keys cache) (now : Nat) (value : Content)
    (absent : cache.peek? key = none) (full : cache.size = limit) :
    (limit = 0 ∧ (cache.put now key value).entries = [])
      ∨ ∃ victim fresh rest, cache.entries.Perm (victim :: rest)
        ∧ (∀ other ∈ rest, UsedSince keys victim.key other.key)
        ∧ (cache.put now key value).entries.Perm (fresh :: rest)
        ∧ fresh.key = key ∧ fresh.value = value ∧ fresh.madeAt = now := by
  by_cases room : limit = 0
  · have size_le := (kept.put now key value).size_le
    rw [room] at size_le
    exact .inl ⟨room, List.length_eq_zero_iff.1 (Nat.le_zero.1 size_le)⟩
  · obtain ⟨victim, member, oldest, entries_eq⟩ := kept.makeRoom_of_full absent full room
    have absentStill := peek?_eq_none_iff.1 (peek?_makeRoom absent)
    obtain ⟨fresh, ⟨rfl, rfl, rfl⟩, -, put_eq⟩ :=
      put_of_room (kept.limit_eq ▸ room) now key value
    refine .inr ⟨victim, fresh, others cache.entries victim.key,
      perm_cons_others kept.recorded.distinct member, ?_, ?_, rfl, rfl, rfl⟩
    · intro other otherMember
      obtain ⟨isIn, otherKey⟩ := mem_others.1 otherMember
      exact oldest other isIn fun same => otherKey (same ▸ rfl)
    · rw [put_eq]
      refine (keep_perm _ _).trans ?_
      rw [others_eq_self absentStill, entries_eq]

/-- The entries that a command does not drop stay, and only a put of its key changes what one
holds. -/
theorem Kept.stays (kept : Kept limit lifetime history keys cache) (now : Nat)
    {command : Command Content} (member : entry ∈ cache.entries)
    (notDropped : ¬ command.Drops cache now entry) :
    ∃ stayed ∈ (cache.perform now command).2.entries, stayed.key = entry.key
      ∧ (stayed.value = entry.value ∧ stayed.madeAt = entry.madeAt
        ∨ ∃ value, command = .put entry.key value ∧ stayed.value = value
          ∧ stayed.madeAt = now) := by
  have untouched {after : List (Entry Content)} (isIn : entry ∈ after) :
      ∃ stayed ∈ after, stayed.key = entry.key
        ∧ (stayed.value = entry.value ∧ stayed.madeAt = entry.madeAt
          ∨ ∃ value, command = .put entry.key value ∧ stayed.value = value
            ∧ stayed.madeAt = now) :=
    ⟨entry, isIn, rfl, .inl ⟨rfl, rfl⟩⟩
  cases command with
  | get key =>
    simp only [Cache.perform, Cache.get]
    split
    · exact untouched member
    · rename_i other found
      obtain ⟨otherMember, rfl⟩ := mem_of_peek? found
      by_cases sameKey : entry.key = other.key
      · obtain rfl := List.inj_on_of_nodup_map kept.recorded.distinct member otherMember sameKey
        have alive : ¬ cache.hasExpired now entry = true := fun expired =>
          notDropped ⟨rfl, expired⟩
        rw [if_neg alive]
        exact ⟨_, mem_keep.2 (.inr rfl), rfl, .inl ⟨rfl, rfl⟩⟩
      · split
        · exact untouched (mem_others.2 ⟨member, sameKey⟩)
        · exact untouched (mem_keep.2 (.inl ⟨member, sameKey⟩))
  | put key value =>
    have room : cache.limit ≠ 0 := by
      intro noRoom
      have size_le := kept.size_le
      rw [← kept.limit_eq, noRoom, size, Nat.le_zero, List.length_eq_zero_iff] at size_le
      rw [size_le] at member
      contradiction
    obtain ⟨fresh, ⟨rfl, rfl, rfl⟩, -, put_eq⟩ := put_of_room room now key value
    simp only [Cache.perform, put_eq]
    by_cases sameKey : entry.key = fresh.key
    · exact ⟨fresh, mem_keep.2 (.inr rfl), sameKey.symm, .inr ⟨_, by rw [sameKey], rfl, rfl⟩⟩
    · refine untouched (mem_keep.2 (.inl ⟨?_, sameKey⟩))
      -- Room is made only where the new key has no entry and the cache is full.
      have roomy : cache.makeRoom fresh.key = cache := by
        rw [Cache.makeRoom, if_neg]
        intro needed
        simp only [Bool.and_eq_true, Option.isNone_iff_eq_none, decide_eq_true_eq] at needed
        have size_le := kept.limit_eq ▸ kept.size_le
        exact notDropped ⟨needed.1, Nat.le_antisymm size_le needed.2⟩
      rwa [roomy]
  | remove key => exact untouched (mem_others.2 ⟨member, fun same => notDropped same.symm⟩)
  | clear => exact absurd trivial notDropped
  | purge =>
    refine untouched (List.mem_filter.2 ⟨member, ?_⟩)
    simpa [Command.Drops] using notDropped
  | contains key => exact untouched member
  | peek key => exact untouched member

/-- Where there is any room, a put gives its key an entry. -/
theorem Kept.stores (kept : Kept limit lifetime history keys cache) (room : limit ≠ 0) (now : Nat)
    (key : String) (value : Content) :
    ∃ stored ∈ (cache.put now key value).entries,
      stored.key = key ∧ stored.value = value ∧ stored.madeAt = now := by
  obtain ⟨fresh, isPut, -, put_eq⟩ := put_of_room (kept.limit_eq ▸ room) now key value
  rw [put_eq]
  exact ⟨fresh, mem_keep.2 (.inr rfl), isPut⟩

/-- The entries that a command drops are gone, and so are their keys, unless it is a put. -/
theorem Kept.drops (kept : Kept limit lifetime history keys cache) (now : Nat)
    {command : Command Content} (noPut : ∀ key value, command ≠ .put key value)
    (member : entry ∈ cache.entries) (dropped : command.Drops cache now entry) :
    ∀ left ∈ (cache.perform now command).2.entries, left.key ≠ entry.key := by
  intro left leftMember
  cases command with
  | get key =>
    obtain ⟨rfl, expired⟩ := dropped
    have found : cache.peek? entry.key = some entry := by
      cases found : cache.peek? entry.key with
      | none => exact absurd rfl (peek?_eq_none_iff.1 found entry member)
      | some other =>
        obtain ⟨otherMember, sameKey⟩ := mem_of_peek? found
        rw [List.inj_on_of_nodup_map kept.recorded.distinct otherMember member sameKey]
    simp only [Cache.perform, Cache.get, found, if_pos expired] at leftMember
    exact (mem_others.1 leftMember).2
  | put key value => exact absurd rfl (noPut key value)
  | remove key =>
    obtain rfl : key = entry.key := dropped
    exact (mem_others.1 leftMember).2
  | contains key | peek key => exact dropped.elim
  | clear => exact nomatch leftMember
  | purge =>
    obtain ⟨stayed, alive⟩ := List.mem_filter.1 leftMember
    intro sameKey
    obtain rfl := List.inj_on_of_nodup_map kept.recorded.distinct stayed member sameKey
    rw [dropped] at alive
    contradiction

/-- What a command leaves was there before, unless it is what the command put there. -/
theorem comes_of_mem_perform (now : Nat) {command : Command Content} {left : Entry Content}
    (member : left ∈ (cache.perform now command).2.entries) :
    (∃ entry ∈ cache.entries, entry.key = left.key ∧ entry.value = left.value
        ∧ entry.madeAt = left.madeAt)
      ∨ command = .put left.key left.value ∧ left.madeAt = now := by
  have untouched (isIn : left ∈ cache.entries) :
      (∃ entry ∈ cache.entries, entry.key = left.key ∧ entry.value = left.value
          ∧ entry.madeAt = left.madeAt)
        ∨ command = .put left.key left.value ∧ left.madeAt = now :=
    .inl ⟨left, isIn, rfl, rfl, rfl⟩
  cases command with
  | get key =>
    simp only [Cache.perform, Cache.get] at member
    split at member
    · exact untouched member
    · rename_i held found
      split at member
      · exact untouched (mem_others.1 member).1
      · rcases mem_keep.1 member with ⟨isIn, -⟩ | rfl
        · exact untouched isIn
        · exact .inl ⟨held, (mem_of_peek? found).1, rfl, rfl, rfl⟩
  | put key value =>
    by_cases room : cache.limit = 0
    · rw [Cache.perform, Cache.put, if_pos room] at member
      exact untouched member
    · obtain ⟨fresh, ⟨rfl, rfl, rfl⟩, -, put_eq⟩ := put_of_room room now key value
      simp only [Cache.perform, put_eq] at member
      rcases mem_keep.1 member with ⟨isIn, -⟩ | rfl
      · exact untouched (mem_of_mem_makeRoom isIn)
      · exact .inr ⟨rfl, rfl⟩
  | remove key => exact untouched (mem_others.1 member).1
  | contains key | peek key => exact untouched member
  | clear => exact nomatch member
  | purge => exact untouched (List.mem_filter.1 member).1

/-- A look-up finds the value of the latest put of a key that has an entry, unless it is too old. -/
theorem Kept.get_iff (kept : Kept limit lifetime history keys cache) (now : Nat) (key : String)
    (value : Content) :
    (cache.get now key).1 = some value
      ↔ (∃ entry ∈ cache.entries, entry.key = key)
        ∧ ∃ madeAt, latestPut? key history = some (madeAt, value)
          ∧ (lifetime = 0 ∨ now - madeAt ≤ lifetime) := by
  cases found : cache.peek? key with
  | none =>
    have absent := peek?_eq_none_iff.1 found
    simp only [Cache.get, found, reduceCtorEq, false_iff]
    rintro ⟨⟨entry, member, sameKey⟩, -⟩
    exact absent entry member sameKey
  | some entry =>
    obtain ⟨member, rfl⟩ := mem_of_peek? found
    have held : ∃ other ∈ cache.entries, other.key = entry.key := ⟨entry, member, rfl⟩
    have expired_iff : cache.hasExpired now entry = true
        ↔ ¬ (lifetime = 0 ∨ now - entry.madeAt ≤ lifetime) := by
      rw [hasExpired, kept.lifetime_eq, Bool.and_eq_true, bne_iff_ne, decide_eq_true_eq]
      omega
    simp only [Cache.get, found, held, kept.recorded.latestPut entry member, true_and,
      Option.some.injEq, Prod.mk.injEq]
    by_cases alive : lifetime = 0 ∨ now - entry.madeAt ≤ lifetime
    · rw [if_neg (fun expired => expired_iff.1 expired alive), Option.some.injEq]
      constructor
      · rintro rfl
        exact ⟨entry.madeAt, ⟨rfl, rfl⟩, alive⟩
      · rintro ⟨-, ⟨-, sameValue⟩, -⟩
        exact sameValue
    · rw [if_pos (expired_iff.2 alive)]
      constructor
      · rintro ⟨⟩
      · rintro ⟨-, ⟨rfl, -⟩, stillAlive⟩
        exact absurd stillAlive alive

/-- A cache contains the keys that a look-up would find a value for. -/
theorem contains_eq_isSome_get (cache : Cache Content) (now : Nat) (key : String) :
    cache.contains now key = (cache.get now key).1.isSome := by
  unfold contains get
  cases cache.peek? key with
  | none => rfl
  | some entry =>
    dsimp only
    cases expired : cache.hasExpired now entry with
    | false => rfl
    | true => rfl

/-- Whatever a cache was given to do, at whatever times, it holds at most as many entries as its
limit allows, takes in what is put into it, gives up the one whose last use is the oldest, and finds
the latest value of each key that it holds until that is too old. -/
theorem run_lawful (limit lifetime : Nat) (sizer : Content → Nat) (history : History Content) :
    Lawful limit lifetime history (usedKeys (empty limit lifetime sizer) history)
      ((empty limit lifetime sizer).run history).2 := by
  have kept := (kept_empty limit lifetime sizer).run history
  rw [List.nil_append, List.nil_append] at kept
  exact
    { size_le := kept.size_le
      distinct := kept.recorded.distinct
      put_full := fun now _ value => kept.put_full now value
      stays := fun now _ _ => kept.stays now
      stores := kept.stores
      drops := fun now _ noPut _ => kept.drops now noPut
      comes := fun now _ _ => comes_of_mem_perform now
      get_iff := kept.get_iff
      contains_eq := contains_eq_isSome_get _
      contains_keeps := fun _ _ => rfl
      peek_keeps := fun _ _ => rfl }

/-- A key that was looked up stays, though it was put in before the one that goes. -/
example :
    ((empty 2 0 fun _ => 0).run [(0, .put "a" 1), (0, .put "b" 2), (0, .get "a"),
      (0, .put "c" 3)]).2.entries.map Entry.key = ["a", "c"] := by
  decide

end Workings.Cache
