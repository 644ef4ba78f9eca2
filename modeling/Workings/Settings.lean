import Workings.Expr.Literal

/-!
# Settings

How much a calculator remembers, for how long, and how deep expressions may nest.
-/

namespace Workings

/-- How much a cache may hold, and for how long. -/
structure Budget where
  /-- The number of entries. -/
  limit : Nat
  /-- How long an entry may be held, in milliseconds; no entry expires if it is nought. -/
  lifetime : Nat
  deriving Repr, DecidableEq

/-- The settings of a calculator. -/
structure Settings where
  /-- Whether expressions, worksheets and findings are kept. -/
  caching : Bool
  /-- Whether expressions may be put off. -/
  deferring : Bool
  expressions : Budget
  worksheets : Budget
  findings : Budget
  /-- How many levels may nest. -/
  ceiling : Nat
  deriving Repr, DecidableEq

namespace Settings

/-- The milliseconds of an hour. -/
def hour : Nat := 60 * 60 * 1000

/-- Settings with a number of cache entries in all: half of it for expressions, half for worksheets,
and a quarter for findings. -/
def ofTotal (total : Nat) : Settings where
  caching := true
  deferring := true
  expressions := ⟨total / 2, 2 * hour⟩
  worksheets := ⟨total / 2, hour⟩
  findings := ⟨total / 4, hour / 2⟩
  ceiling := Expr.defaultCeiling

/-- The settings of a calculator for which none are named. -/
def standard : Settings :=
  ofTotal 500

end Settings

end Workings
