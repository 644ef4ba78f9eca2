import Workings.Formula
import Workings.Ranking
import Workings.Text.EditDistance
import Workings.Text.LowerCase
import Workings.Text.Occurrence

/-!
# Catalogs

A catalog lists formulas in the order in which they were added, and every query keeps that order.
Nothing forbids two formulas of one name; queries by name answer with the first.
-/

namespace Workings

/-- Formulas in the order in which they were added. -/
structure Catalog where
  formulas : List Formula
  deriving Repr, DecidableEq

namespace Catalog

/-- The catalog with a further formula at its end. -/
def add (catalog : Catalog) (formula : Formula) : Catalog :=
  ⟨catalog.formulas ++ [formula]⟩

/-- The number of formulas. -/
def size (catalog : Catalog) : Nat :=
  catalog.formulas.length

/-- The formulas of a grade. -/
def ofGrade (catalog : Catalog) (grade : Nat) : List Formula :=
  catalog.formulas.filter fun formula => formula.grade = grade

/-- Whether two texts differ at most in the case of plain letters. -/
def sameLetters (left right : String) : Bool :=
  left.toList.map Char.toLower = right.toList.map Char.toLower

/-- The formulas of a category, in whatever case it is written. -/
def ofCategory (catalog : Catalog) (category : String) : List Formula :=
  catalog.formulas.filter fun formula => sameLetters formula.category category

/-- The formulas of a topic, in whatever case it is written. -/
def ofTopic (catalog : Catalog) (topic : String) : List Formula :=
  catalog.formulas.filter fun formula => sameLetters formula.topic topic

/-- The formulas with a text in their name, description, topic or category, in whatever case it is
written. -/
def search (catalog : Catalog) (query : String) : List Formula :=
  let needle := Text.lower query
  catalog.formulas.filter fun formula =>
    [formula.name, formula.description, formula.topic, formula.category].any fun field =>
      Text.contains (Text.lower field) needle

/-- The first formula of exactly the given name. -/
def named? (catalog : Catalog) (name : String) : Option Formula :=
  catalog.formulas.find? fun formula => formula.name = name

/-- The categories, each once, in the order in which they first appear. -/
def categories (catalog : Catalog) : List String :=
  catalog.formulas.foldl
    (fun found formula =>
      if found.contains formula.category then found else found ++ [formula.category])
    []

/-- Names are similar that are fewer edits apart. -/
def similarityLimit : Nat := 4

/-- The names of the formulas that are called similarly, the most similar first, and otherwise in
the order of the catalog. -/
def similar (catalog : Catalog) (name : String) : List String :=
  let wanted := Text.lower name
  let distances := catalog.formulas.map fun formula =>
    (Text.editDistance wanted (Text.lower formula.name), formula.name)
  let near := distances.filter fun candidate => candidate.1 < similarityLimit
  (Ranking.rank (fun left right => left.1 < right.1) near).map Prod.snd

/-- A formula that is found by a name has that name and is in the catalog. -/
theorem mem_of_named? {catalog : Catalog} {name : String} {formula : Formula}
    (found : catalog.named? name = some formula) :
    formula ∈ catalog.formulas ∧ formula.name = name :=
  ⟨List.mem_of_find?_eq_some found, by simpa using List.find?_some found⟩

end Catalog

end Workings
