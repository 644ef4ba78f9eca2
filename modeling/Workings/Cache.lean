/-!
# Caches

A cache keeps values by keys, up to a limit. It counts its uses, and every entry bears the count of
its own last use, so a full cache gives up the entry with the smallest count for a new key. In
which order the entries are listed means nothing. An entry that is older than the lifetime of
entries is as good as absent, and is dropped when it is asked for. Times are milliseconds on a
clock that the caller reads.
-/

namespace Workings

/-- A value in a cache. -/
structure Cache.Entry (Content : Type) where
  key : String
  value : Content
  /-- When the value was put into the cache. -/
  madeAt : Nat
  /-- How often the value was asked for since then. -/
  uses : Nat
  /-- The bytes of the value and its key. -/
  size : Nat
  /-- The count of uses of the cache when this entry was last used. -/
  lastUse : Nat
  deriving Repr, DecidableEq

/-- Values by keys. -/
structure Cache (Content : Type) where
  /-- How many entries there may be. -/
  limit : Nat
  /-- How long entries may be held; no entry expires if it is nought. -/
  lifetime : Nat
  /-- The bytes of a value. -/
  sizer : Content → Nat
  /-- The entries, at most one of a key. -/
  entries : List (Cache.Entry Content)
  /-- How often a value was put into the cache or was found in it. -/
  clock : Nat
  hits : Nat
  misses : Nat
  evictions : Nat
  expirations : Nat

namespace Cache

variable {Content : Type}

/-- A cache without entries. -/
def empty (limit lifetime : Nat) (sizer : Content → Nat) : Cache Content where
  limit
  lifetime
  sizer
  entries := []
  clock := 0
  hits := 0
  misses := 0
  evictions := 0
  expirations := 0

/-- The number of entries, expired ones included. -/
def size (cache : Cache Content) : Nat :=
  cache.entries.length

/-- Whether an entry is too old. -/
def hasExpired (cache : Cache Content) (now : Nat) (entry : Entry Content) : Bool :=
  cache.lifetime != 0 && cache.lifetime < now - entry.madeAt

/-- The entry of a key, even if it is too old. -/
def peek? (cache : Cache Content) (key : String) : Option (Entry Content) :=
  cache.entries.find? fun entry => entry.key = key

/-- The entries of all other keys. -/
def others (entries : List (Entry Content)) (key : String) : List (Entry Content) :=
  entries.filter fun entry => entry.key ≠ key

/-- The entries with a new one, in the place of any entry that its key has. -/
def keep (entries : List (Entry Content)) (entry : Entry Content) : List (Entry Content) :=
  others entries entry.key ++ [entry]

/-- The entry with the smallest count; of two with the same count the first one. -/
def leastRecent? : List (Entry Content) → Option (Entry Content)
  | [] => none
  | entry :: rest =>
    match leastRecent? rest with
    | none => some entry
    | some other => if entry.lastUse ≤ other.lastUse then some entry else some other

/-- Whether a key has an entry that is not too old. -/
def contains (cache : Cache Content) (now : Nat) (key : String) : Bool :=
  match cache.peek? key with
  | some entry => !cache.hasExpired now entry
  | none => false

/-- Looks a key up. An entry that is found becomes the most recently used one; an entry that is too
old is dropped. -/
def get (cache : Cache Content) (now : Nat) (key : String) : Option Content × Cache Content :=
  match cache.peek? key with
  | none => (none, { cache with misses := cache.misses + 1 })
  | some entry =>
    if cache.hasExpired now entry then
      (none,
        { cache with
          entries := others cache.entries key
          misses := cache.misses + 1
          expirations := cache.expirations + 1 })
    else
      (some entry.value,
        { cache with
          entries := keep cache.entries
            { entry with uses := entry.uses + 1, lastUse := cache.clock + 1 }
          clock := cache.clock + 1
          hits := cache.hits + 1 })

/-- Gives up the least recently used entry if a new key finds no room. -/
def makeRoom (cache : Cache Content) (key : String) : Cache Content :=
  if (cache.peek? key).isNone && cache.limit ≤ cache.size then
    match leastRecent? cache.entries with
    | none => cache
    | some entry =>
      { cache with
        entries := others cache.entries entry.key
        evictions := cache.evictions + 1 }
  else cache

/-- Puts a value into the cache, in the place of any value that the key has. -/
def put (cache : Cache Content) (now : Nat) (key : String) (value : Content) : Cache Content :=
  if cache.limit = 0 then cache
  else
    let roomy := cache.makeRoom key
    let entry : Entry Content :=
      { key, value, madeAt := now, uses := 0, size := cache.sizer value + key.utf8ByteSize,
        lastUse := roomy.clock + 1 }
    { roomy with entries := keep roomy.entries entry, clock := roomy.clock + 1 }

/-- Drops the entry of a key and answers its value, even if it is too old. -/
def remove (cache : Cache Content) (key : String) : Option Content × Cache Content :=
  ((cache.peek? key).map Entry.value, { cache with entries := others cache.entries key })

/-- Drops all entries. The counts of hits and misses go on. -/
def clear (cache : Cache Content) : Cache Content :=
  { cache with entries := [] }

/-- Drops the entries that are too old and answers how many there were. -/
def purge (cache : Cache Content) (now : Nat) : Nat × Cache Content :=
  let kept := cache.entries.filter fun entry => !cache.hasExpired now entry
  let purged := cache.size - kept.length
  (purged, { cache with entries := kept, expirations := cache.expirations + purged })

/-- The entries of all other keys are the entries that have another key. -/
@[simp] theorem mem_others {entries : List (Entry Content)} {key : String}
    {entry : Entry Content} :
    entry ∈ others entries key ↔ entry ∈ entries ∧ entry.key ≠ key := by
  simp [others]

/-- A new entry leaves the entries of all other keys. -/
@[simp] theorem mem_keep {entries : List (Entry Content)} {entry other : Entry Content} :
    other ∈ keep entries entry
      ↔ (other ∈ entries ∧ other.key ≠ entry.key) ∨ other = entry := by
  simp [keep]

end Cache

end Workings
