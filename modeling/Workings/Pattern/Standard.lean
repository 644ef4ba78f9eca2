import Workings.Pattern.Engine
import Workings.Pattern.Reader
import Workings.Pattern.Search

/-!
# The standard engine

The engine that patterns are searched for with where no other is named: it makes a program of every
pattern that it reads.
-/

namespace Workings

/-- The engine that makes programs of patterns. -/
def Engine.standard : Engine where
  compile? ignoringCase source := do
    let pattern ← Pattern.read? ignoringCase source
    let program := Program.of pattern
    return ⟨pattern.groupCount, fun text => program.find? pattern.groupCount text.toList.toArray⟩

end Workings
