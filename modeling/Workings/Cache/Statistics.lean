import Workings.Cache
import Workings.Number.Layout

/-!
# Statistics of caches

What a cache has done so far, and what it holds.
-/

namespace Workings.Cache

/-- What a cache has done so far, and what it holds. -/
structure Statistics where
  hits : Nat
  misses : Nat
  evictions : Nat
  expirations : Nat
  size : Nat
  limit : Nat
  bytes : Nat
  deriving Repr, DecidableEq

/-- The statistics of a cache. -/
def statistics {Content : Type} (cache : Cache Content) : Statistics where
  hits := cache.hits
  misses := cache.misses
  evictions := cache.evictions
  expirations := cache.expirations
  size := cache.size
  limit := cache.limit
  bytes := cache.entries.foldr (fun entry bytes => entry.size + bytes) 0

namespace Statistics

/-- The number of look-ups. -/
def requests (statistics : Statistics) : Nat :=
  statistics.hits + statistics.misses

/-- The share of look-ups that found something; nought if there were none. -/
def hitRate (statistics : Statistics) : Float :=
  if statistics.requests = 0 then 0
  else statistics.hits.toFloat / statistics.requests.toFloat

/-- The statistics in one line. -/
def text (statistics : Statistics) : String :=
  toString statistics.size ++ "/" ++ toString statistics.limit ++ " entries, "
    ++ toString statistics.bytes ++ " bytes, "
    ++ toString statistics.hits ++ " hits, "
    ++ toString statistics.misses ++ " misses ("
    ++ Number.onePlace (statistics.hitRate * 100) ++ "% hit rate), "
    ++ toString statistics.evictions ++ " evictions, "
    ++ toString statistics.expirations ++ " expirations"

end Statistics

end Workings.Cache
