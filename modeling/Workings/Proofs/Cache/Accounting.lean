import Mathlib.Algebra.GroupWithZero.Nat
import Workings.Cache.Statistics
import Workings.Proofs.Cache.Inclusion

/-!
# What the statistics of a cache tell

Every entry that was ever put into a cache is still held, or it left in one of five ways: it was
evicted, it was too old for a look-up or for a purge, it was removed, or all entries were cleared.
Every look-up is a hit or a miss. What one command does to the counts is settled once for each
command, and sums up over a session. What an entry says of itself, its size and its uses, is settled
by the ways in which a command can leave an entry behind.
-/

namespace Workings.Cache

variable {Content : Type}

/-! ## The moments of a session -/

/-- A command with the time at which it was given, and the cache that it was given to. -/
structure Moment (Content : Type) where
  cache : Cache Content
  now : Nat
  command : Command Content

/-- The moments of a session, in their order. -/
def moments (cache : Cache Content) : History Content → List (Moment Content)
  | [] => []
  | (now, command) :: rest =>
    ⟨cache, now, command⟩ :: (cache.perform now command).2.moments rest

namespace Moment

/-- The key that a value was put into the cache for. -/
@[simp] def putKey? : Moment Content → Option String
  | ⟨_, _, .put key _⟩ => some key
  | _ => none

/-- Whether a key was put into the cache that was not held. -/
@[simp] def adds : Moment Content → Bool
  | ⟨cache, _, .put key _⟩ => cache.limit != 0 && (cache.peek? key).isNone
  | _ => false

/-- Whether a key was looked up. -/
@[simp] def looksUp : Moment Content → Bool
  | ⟨_, _, .get _⟩ => true
  | _ => false

/-- The key of a look-up that found a value. -/
@[simp] def foundKey? : Moment Content → Option String
  | ⟨cache, now, .get key⟩ => (cache.get now key).1.map fun _ => key
  | _ => none

/-- Whether a look-up came upon an entry that was too old. -/
@[simp] def findsExpired : Moment Content → Bool
  | ⟨cache, now, .get key⟩ => (cache.peek? key).any (cache.hasExpired now)
  | _ => false

/-- Whether a key was looked up that was not held. -/
@[simp] def findsNothing : Moment Content → Bool
  | ⟨cache, _, .get key⟩ => (cache.peek? key).isNone
  | _ => false

/-- Whether an entry was removed and its value returned. -/
@[simp] def returnsRemoved : Moment Content → Bool
  | ⟨cache, _, .remove key⟩ => (cache.remove key).1.isSome
  | _ => false

/-- How many entries were cleared. -/
@[simp] def cleared : Moment Content → Nat
  | ⟨cache, _, .clear⟩ => cache.size
  | _ => 0

/-- How many entries were purged, by the answer to the command. -/
@[simp] def purged : Moment Content → Nat
  | ⟨cache, now, .purge⟩ => (cache.purge now).1
  | _ => 0

end Moment

/-- How often a key was found since the last put of it. -/
def foundSincePut (key : String) (moments : List (Moment Content)) : Nat :=
  (moments.reverse.takeWhile fun moment => moment.putKey? ≠ some key).countP
    fun moment => moment.foundKey? = some key

/-! ## What moments add up to -/

/-- How the counts of a cache before some moments and after them differ. -/
structure Balances (before : Cache Content) (moments : List (Moment Content))
    (after : Cache Content) : Prop where
  entries : before.size + before.evictions + before.expirations + moments.countP Moment.adds
    = after.size + after.evictions + after.expirations + moments.countP Moment.returnsRemoved
      + (moments.map Moment.cleared).sum
  lookUps : after.hits + after.misses
    = before.hits + before.misses + moments.countP Moment.looksUp
  hits : after.hits = before.hits + moments.countP fun moment => moment.foundKey?.isSome
  misses : after.misses
    = before.misses + moments.countP Moment.findsNothing + moments.countP Moment.findsExpired
  expirations : after.expirations
    = before.expirations + moments.countP Moment.findsExpired + (moments.map Moment.purged).sum

/-- No moments change no counts. -/
theorem Balances.nil (cache : Cache Content) : Balances cache [] cache := by
  constructor <;> simp

/-- The counts change from one moment to the next. -/
theorem Balances.cons {before between after : Cache Content} {moment : Moment Content}
    {moments : List (Moment Content)} (first : Balances before [moment] between)
    (others : Balances between moments after) : Balances before (moment :: moments) after := by
  obtain ⟨entries, lookUps, hits, misses, expirations⟩ := first
  obtain ⟨entries', lookUps', hits', misses', expirations'⟩ := others
  constructor <;>
    simp only [List.countP_cons, List.countP_nil, List.map_cons, List.map_nil, List.sum_cons,
      List.sum_nil] at * <;>
    omega

variable {limit lifetime : Nat} {history : History Content} {keys : List String}
  {cache : Cache Content}

/-- Dropping the entry of a key makes a cache smaller by one. -/
theorem length_others {entries : List (Entry Content)} {entry : Entry Content}
    (distinct : (entries.map Entry.key).Nodup) (member : entry ∈ entries) :
    (others entries entry.key).length + 1 = entries.length :=
  (perm_cons_others distinct member).length_eq.symm

/-- A look-up is a hit or a miss, and it drops an entry only where that is too old. -/
theorem Kept.balances_get (kept : Kept limit lifetime history keys cache) (now : Nat)
    (key : String) : Balances cache [⟨cache, now, .get key⟩] (cache.get now key).2 := by
  cases found : cache.peek? key with
  | none => constructor <;> simp [Cache.get, found, size, Nat.add_assoc]
  | some entry =>
    obtain ⟨member, rfl⟩ := mem_of_peek? found
    cases expired : cache.hasExpired now entry with
    | true =>
      have shorter := length_others kept.recorded.distinct member
      constructor <;> simp [Cache.get, found, size, expired, ← shorter] <;> omega
    | false =>
      have replaced (used : Entry Content) (sameKey : used.key = entry.key) :=
        length_keep_of_mem kept.recorded.distinct member used sameKey
      constructor <;> simp [Cache.get, found, size, expired, replaced]
      case lookUps => omega

/-- What is evicted is counted, and nothing else is. -/
theorem Kept.makeRoom_counts (kept : Kept limit lifetime history keys cache) (key : String) :
    (cache.makeRoom key).size + (cache.makeRoom key).evictions = cache.size + cache.evictions
      ∧ (cache.makeRoom key).hits = cache.hits ∧ (cache.makeRoom key).misses = cache.misses
      ∧ (cache.makeRoom key).expirations = cache.expirations := by
  unfold Cache.makeRoom
  split
  · split
    · exact ⟨rfl, rfl, rfl, rfl⟩
    · rename_i victim smallest
      have shorter := length_others kept.recorded.distinct (leastRecent?_spec smallest).1
      refine ⟨?_, rfl, rfl, rfl⟩
      simp only [size]
      omega
  · exact ⟨rfl, rfl, rfl, rfl⟩

/-- A put adds an entry if its key is not held, for which one may have been evicted. -/
theorem Kept.balances_put (kept : Kept limit lifetime history keys cache) (now : Nat)
    (key : String) (value : Content) :
    Balances cache [⟨cache, now, .put key value⟩] (cache.put now key value) := by
  by_cases room : cache.limit = 0
  · constructor <;> simp [Cache.put, room]
  · obtain ⟨fresh, ⟨rfl, rfl, rfl⟩, -, put_eq⟩ := put_of_room room now key value
    rw [put_eq]
    cases found : cache.peek? fresh.key with
    | none =>
      obtain ⟨evicted, hits_eq, misses_eq, expirations_eq⟩ := kept.makeRoom_counts fresh.key
      have longer := length_keep_of_absent (peek?_eq_none_iff.1 (peek?_makeRoom found))
      constructor <;> simp [size, room, found, longer] at evicted ⊢ <;> omega
    | some entry =>
      obtain ⟨member, sameKey⟩ := mem_of_peek? found
      have replaced := length_keep_of_mem kept.recorded.distinct member fresh sameKey.symm
      rw [makeRoom_eq_self found]
      constructor <;> simp [size, found, replaced]

/-- An entry that is removed is returned. -/
theorem Kept.balances_remove (kept : Kept limit lifetime history keys cache) (now : Nat)
    (key : String) : Balances cache [⟨cache, now, .remove key⟩] (cache.remove key).2 := by
  cases found : cache.peek? key with
  | none =>
    have unchanged := others_eq_self (peek?_eq_none_iff.1 found)
    constructor <;> simp [Cache.remove, found, size, unchanged]
  | some entry =>
    obtain ⟨member, rfl⟩ := mem_of_peek? found
    have shorter := length_others kept.recorded.distinct member
    constructor <;> simp [Cache.remove, found, size, ← shorter]
    case entries => omega

/-- Every command changes the counts by what the moment tells. -/
theorem Kept.balances_perform (kept : Kept limit lifetime history keys cache) (now : Nat)
    (command : Command Content) :
    Balances cache [⟨cache, now, command⟩] (cache.perform now command).2 := by
  cases command with
  | get key => exact kept.balances_get now key
  | put key value => exact kept.balances_put now key value
  | remove key => exact kept.balances_remove now key
  | contains key => constructor <;> simp [Cache.perform]
  | peek key => constructor <;> simp [Cache.perform]
  | clear =>
    constructor <;> simp [Cache.perform, Cache.clear, size]
    case entries => omega
  | purge =>
    have fewer := List.length_filter_le (fun entry => !cache.hasExpired now entry) cache.entries
    constructor <;> simp [Cache.perform, Cache.purge, size]
    case entries => omega

/-- A session changes the counts by what its moments tell. -/
theorem Kept.balances_run (kept : Kept limit lifetime history keys cache)
    (commands : History Content) :
    Balances cache (cache.moments commands) (cache.run commands).2 := by
  induction commands generalizing history keys cache with
  | nil => exact .nil cache
  | cons step rest hypothesis =>
    obtain ⟨now, command⟩ := step
    exact (kept.balances_perform now command).cons (hypothesis (kept.perform now command))

/-! ## What entries tell of themselves -/

/-- How often a key was found since the last put of it, one moment later. -/
theorem foundSincePut_append (key : String) (moments : List (Moment Content))
    (moment : Moment Content) :
    foundSincePut key (moments ++ [moment])
      = if moment.putKey? = some key then 0
        else foundSincePut key moments + if moment.foundKey? = some key then 1 else 0 := by
  unfold foundSincePut
  by_cases isPut : moment.putKey? = some key
  · simp [isPut, -Moment.putKey?]
  · simp [isPut, List.countP_cons, -Moment.putKey?, -Moment.foundKey?]

/-- The ways in which a moment can leave an entry behind. -/
inductive Moment.Leaves (moment : Moment Content) : Entry Content → Prop where
  | untouched {entry : Entry Content} (held : entry ∈ moment.cache.entries)
      (noPut : moment.putKey? ≠ some entry.key) (notFound : moment.foundKey? ≠ some entry.key) :
      Leaves moment entry
  | found {entry : Entry Content} (held : entry ∈ moment.cache.entries)
      (noPut : moment.putKey? ≠ some entry.key) (isFound : moment.foundKey? = some entry.key) :
      Leaves moment { entry with uses := entry.uses + 1, lastUse := moment.cache.clock + 1 }
  | fresh {key : String} {value : Content} {lastUse : Nat} (isPut : moment.putKey? = some key) :
      Leaves moment
        ⟨key, value, moment.now, 0, moment.cache.sizer value + key.utf8ByteSize, lastUse⟩

/-- Every entry that is held after a command was left behind in one of these ways. -/
theorem Kept.leaves (kept : Kept limit lifetime history keys cache) {now : Nat}
    {command : Command Content} {entry : Entry Content}
    (member : entry ∈ (cache.perform now command).2.entries) :
    Moment.Leaves ⟨cache, now, command⟩ entry := by
  cases command with
  | get key =>
    simp only [Cache.perform, Cache.get] at member
    split at member
    · rename_i absent
      exact .untouched member (by simp) (by simp [Cache.get, absent])
    · rename_i held found
      obtain ⟨isHeld, rfl⟩ := mem_of_peek? found
      split at member
      · rename_i expired
        exact .untouched (mem_others.1 member).1 (by simp) (by simp [Cache.get, found, expired])
      · rename_i alive
        have isFound : Moment.foundKey? ⟨cache, now, .get held.key⟩ = some held.key := by
          simp [Cache.get, found, alive]
        rcases mem_keep.1 member with ⟨other, otherKey⟩ | rfl
        · have notFound : Moment.foundKey? ⟨cache, now, .get held.key⟩ ≠ some entry.key := by
            rw [isFound]
            exact fun same => otherKey (Option.some.inj same).symm
          exact .untouched other (by simp) notFound
        · exact .found isHeld (by simp) isFound
  | put key value =>
    simp only [Cache.perform, Cache.put] at member
    split at member
    · rename_i noRoom
      have size_le := kept.size_le
      rw [← kept.limit_eq, noRoom, size, Nat.le_zero, List.length_eq_zero_iff] at size_le
      rw [size_le] at member
      contradiction
    · rcases mem_keep.1 member with ⟨other, otherKey⟩ | rfl
      · exact .untouched (mem_of_mem_makeRoom other) (by simpa using otherKey.symm) (by simp)
      · exact .fresh rfl
  | remove key =>
    obtain ⟨held, -⟩ := mem_others.1 member
    exact .untouched held (by simp) (by simp)
  | contains key => exact .untouched member (by simp) (by simp)
  | peek key => exact .untouched member (by simp) (by simp)
  | clear => contradiction
  | purge => exact .untouched (List.mem_filter.1 member).1 (by simp) (by simp)

/-- An entry that tells the bytes of its value and its key, and how often it was found since it was
put in. -/
structure Entry.Tells (sizer : Content → Nat) (moments : List (Moment Content))
    (entry : Entry Content) : Prop where
  size_eq : entry.size = sizer entry.value + entry.key.utf8ByteSize
  uses_eq : entry.uses = foundSincePut entry.key moments

/-- An entry that a moment leaves behind tells what it should if those before it did. -/
theorem Moment.Leaves.tells {moment : Moment Content} {entry : Entry Content}
    {moments : List (Moment Content)} (leaves : moment.Leaves entry)
    (tell : ∀ held ∈ moment.cache.entries, held.Tells moment.cache.sizer moments) :
    entry.Tells moment.cache.sizer (moments ++ [moment]) := by
  cases leaves with
  | untouched held noPut notFound =>
    obtain ⟨size_eq, uses_eq⟩ := tell entry held
    refine ⟨size_eq, ?_⟩
    rw [foundSincePut_append, if_neg noPut, if_neg notFound, uses_eq, Nat.add_zero]
  | found held noPut isFound =>
    obtain ⟨size_eq, uses_eq⟩ := tell _ held
    refine ⟨size_eq, ?_⟩
    rw [foundSincePut_append, if_neg noPut, if_pos isFound, uses_eq]
  | fresh isPut =>
    refine ⟨rfl, ?_⟩
    rw [foundSincePut_append, if_pos isPut]

/-- No command changes how a cache sizes values. -/
theorem sizer_perform (cache : Cache Content) (now : Nat) (command : Command Content) :
    (cache.perform now command).2.sizer = cache.sizer := by
  cases command with
  | get key =>
    simp only [perform, get]
    split
    · rfl
    · split <;> rfl
  | put key value =>
    simp only [perform, put, makeRoom]
    split
    · rfl
    · split
      · split <;> rfl
      · rfl
  | _ => rfl

/-- All entries tell what they should after a session if they did before. -/
theorem Kept.tells_run (kept : Kept limit lifetime history keys cache)
    {past : List (Moment Content)}
    (tell : ∀ entry ∈ cache.entries, entry.Tells cache.sizer past) (commands : History Content) :
    ∀ entry ∈ (cache.run commands).2.entries,
      entry.Tells cache.sizer (past ++ cache.moments commands) := by
  induction commands generalizing history keys cache past with
  | nil => simpa [Cache.run, moments] using tell
  | cons step rest hypothesis =>
    obtain ⟨now, command⟩ := step
    have tellNext : ∀ entry ∈ (cache.perform now command).2.entries,
        entry.Tells (cache.perform now command).2.sizer (past ++ [⟨cache, now, command⟩]) := by
      intro entry member
      rw [sizer_perform]
      exact (kept.leaves member).tells tell
    have later := hypothesis (kept.perform now command) tellNext
    rw [sizer_perform, List.append_assoc] at later
    exact later

/-! ## The accounts of a session -/

/-- What the statistics of a cache and its entries tell of the moments of a session. -/
structure Accounts (sizer : Content → Nat) (moments : List (Moment Content))
    (cache : Cache Content) : Prop where
  /-- Every entry that was added is held, or was evicted, was too old, was removed and returned, or
  was cleared. -/
  entries : moments.countP Moment.adds
    = cache.statistics.size + cache.statistics.evictions + cache.statistics.expirations
      + moments.countP Moment.returnsRemoved + (moments.map Moment.cleared).sum
  /-- Every look-up is a hit or a miss. -/
  lookUps : cache.statistics.hits + cache.statistics.misses = moments.countP Moment.looksUp
  /-- The hits are the look-ups that found a value. -/
  hits : cache.statistics.hits = moments.countP fun moment => moment.foundKey?.isSome
  /-- A look-up misses where the key is not held, and once where its entry is too old. -/
  misses : cache.statistics.misses
    = moments.countP Moment.findsNothing + moments.countP Moment.findsExpired
  /-- An entry that is too old counts once, for the look-up or the purge that came upon it. -/
  expirations : cache.statistics.expirations
    = moments.countP Moment.findsExpired + (moments.map Moment.purged).sum
  /-- The bytes are those of the values and the keys that are held. -/
  bytes : cache.statistics.bytes
    = (cache.entries.map fun entry => sizer entry.value + entry.key.utf8ByteSize).sum
  /-- An entry was used as often as its key was found since it was put in. -/
  uses : ∀ entry ∈ cache.entries, entry.uses = foundSincePut entry.key moments

/-- The bytes of entries that tell their own sizes. -/
theorem bytes_of_tells {sizer : Content → Nat} {moments : List (Moment Content)}
    (tell : ∀ entry ∈ cache.entries, entry.Tells sizer moments) :
    cache.statistics.bytes
      = (cache.entries.map fun entry => sizer entry.value + entry.key.utf8ByteSize).sum := by
  have sizes : (cache.entries.map Entry.size)
      = cache.entries.map fun entry => sizer entry.value + entry.key.utf8ByteSize :=
    List.map_congr_left fun entry member => (tell entry member).size_eq
  rw [← sizes, List.sum_eq_foldr, List.foldr_map]
  rfl

/-- Whatever a cache was given to do, its statistics account for every entry and for every look-up,
and its entries for their bytes and for the look-ups that found them. -/
theorem run_accounts (limit lifetime : Nat) (sizer : Content → Nat) (history : History Content) :
    Accounts sizer ((empty limit lifetime sizer).moments history)
      ((empty limit lifetime sizer).run history).2 := by
  have kept := kept_empty limit lifetime sizer
  have balances := kept.balances_run history
  have nothingHeld : ∀ entry ∈ (empty limit lifetime sizer).entries,
      entry.Tells (empty limit lifetime sizer).sizer [] := by
    simp [empty]
  have tell := kept.tells_run nothingHeld history
  have entries := balances.entries
  have lookUps := balances.lookUps
  have hits := balances.hits
  have misses := balances.misses
  have expirations := balances.expirations
  simp only [empty, size, List.length_nil, Nat.zero_add] at entries lookUps hits misses expirations
  exact ⟨entries, lookUps, hits, misses, expirations, bytes_of_tells tell,
    fun entry member => (tell entry member).uses_eq⟩

/-- Of two entries that were put in, one was evicted and the other was removed, and the value that
was looked up last was gone. -/
example :
    let history :=
      [(0, .put "a" 1), (1, .get "a"), (2, .put "b" 2), (3, .get "a"), (4, .remove "b")]
    let moments := (empty 1 0 fun _ => 0).moments history
    let statistics := ((empty 1 0 fun _ => 0).run history).2.statistics
    moments.countP Moment.adds = 2 ∧ statistics.evictions = 1
      ∧ moments.countP Moment.returnsRemoved = 1 ∧ statistics.hits = 1 ∧ statistics.misses = 1 := by
  decide

end Workings.Cache
