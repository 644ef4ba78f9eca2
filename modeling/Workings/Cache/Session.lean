import Workings.Cache

/-!
# Sessions with a cache

A session is a sequence of commands to one cache, each at a time on the clock.
-/

namespace Workings.Cache

variable {Content : Type}

/-- What a cache may be asked to do. -/
inductive Command (Content : Type) where
  | get (key : String)
  | put (key : String) (value : Content)
  | remove (key : String)
  | contains (key : String)
  | peek (key : String)
  | clear
  | purge
  deriving Repr, DecidableEq

/-- What a cache replies. -/
inductive Reply (Content : Type) where
  | value (value? : Option Content)
  | entry (held? : Option (Entry Content))
  | verdict (found : Bool)
  | count (count : Nat)
  | done
  deriving Repr, DecidableEq

/-- Carries out a command. -/
def perform (cache : Cache Content) (now : Nat) : Command Content → Reply Content × Cache Content
  | .get key =>
    let (value?, cache) := cache.get now key
    (.value value?, cache)
  | .put key value => (.done, cache.put now key value)
  | .remove key =>
    let (value?, cache) := cache.remove key
    (.value value?, cache)
  | .contains key => (.verdict (cache.contains now key), cache)
  | .peek key => (.entry (cache.peek? key), cache)
  | .clear => (.done, cache.clear)
  | .purge =>
    let (count, cache) := cache.purge now
    (.count count, cache)

/-- The replies to commands, each given with its time, and the cache they leave. -/
def run (cache : Cache Content) :
    List (Nat × Command Content) → List (Reply Content) × Cache Content
  | [] => ([], cache)
  | (now, command) :: rest =>
    let (reply, cache) := cache.perform now command
    let (replies, cache) := cache.run rest
    (reply :: replies, cache)

end Workings.Cache
