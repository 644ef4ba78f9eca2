import Workings.Text.Category
import Workings.Text.Newest

/-!
# Characters by category

Sets of the characters of some general categories, as patterns know them: without those that version
17 of the character standard added.
-/

namespace Workings

/-- The characters of some general categories. -/
def CharSet.ofCategories (categories : List Text.Category) : CharSet :=
  let members := CharSet.ofSteps Text.categoryTable categories.contains
  if categories.contains .cn then members.union Text.newest else members.difference Text.newest

end Workings
