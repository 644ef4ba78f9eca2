import Workings.Bindings
import Workings.Ranking
import Workings.Worksheet

/-!
# The backlog

Expressions that are to be evaluated later wait in the backlog, the most urgent first and among
equally urgent ones the oldest first. Each has a number under which its worksheet is recorded.
Numbers are never given twice.
-/

namespace Workings

/-- An expression that is to be evaluated later. -/
structure Backlog.Request where
  id : Nat
  expression : String
  bindings : Bindings
  /-- Requests of a higher priority are taken first. -/
  priority : Int

/-- Whether a request is taken before another. -/
def Backlog.Request.precedes (left right : Request) : Bool :=
  right.priority < left.priority || (left.priority = right.priority && left.id < right.id)

/-- Expressions that wait, and the worksheets of those that waited. -/
structure Backlog where
  /-- The requests that wait, in the order in which they will be taken. -/
  waiting : List Backlog.Request
  /-- The number of the next request. -/
  nextId : Nat
  /-- The recorded worksheets by the number of their request. -/
  results : List (Nat × Worksheet)

namespace Backlog

/-- Nothing waits and nothing was recorded. -/
def empty : Backlog := ⟨[], 0, []⟩

/-- Adds a request and answers its number. -/
def push (backlog : Backlog) (expression : String) (bindings : Bindings) (priority : Int) :
    Nat × Backlog :=
  let request : Request := { id := backlog.nextId, expression, bindings, priority }
  (backlog.nextId,
    { backlog with
      waiting := Ranking.insert Request.precedes request backlog.waiting
      nextId := backlog.nextId + 1 })

/-- Takes the most urgent request. -/
def pop? (backlog : Backlog) : Option (Request × Backlog) :=
  match backlog.waiting with
  | [] => none
  | request :: rest => some (request, { backlog with waiting := rest })

/-- Records the worksheet of a request, in the place of any that was recorded for it. -/
def record (backlog : Backlog) (id : Nat) (sheet : Worksheet) : Backlog :=
  { backlog with results := (id, sheet) :: backlog.results.filter fun result => result.1 ≠ id }

/-- The worksheet that was recorded for a request. -/
def result? (backlog : Backlog) (id : Nat) : Option Worksheet :=
  backlog.results.lookup id

/-- Drops all requests and all worksheets. The numbers go on. -/
def clear (backlog : Backlog) : Backlog :=
  { backlog with waiting := [], results := [] }

/-- How full a backlog is. -/
structure Status where
  waiting : Nat
  recorded : Nat
  /-- The priority of the request that is taken next. -/
  nextPriority : Option Int
  deriving Repr, DecidableEq

/-- The status of a backlog. -/
def status (backlog : Backlog) : Status where
  waiting := backlog.waiting.length
  recorded := backlog.results.length
  nextPriority := backlog.waiting.head?.map Request.priority

end Backlog

end Workings
