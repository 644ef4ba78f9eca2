import Workings.Formula.Catalog
import Workings.Pattern.Standard
import Workings.Ranking

/-!
# Detection of formulas

A formula is detected in an expression where an engine finds its pattern. How likely it is that the
formula is meant is guessed from the pattern and from where it was found, and the most likely
formulas come first.
-/

namespace Workings

/-- What a typographic sign is written as in plain characters. -/
def plainForm : Char → List Char
  | '×' => ['*']
  | '÷' => ['/']
  | '²' => ['^', '2']
  | '³' => ['^', '3']
  | char => [char]

/-- The form of an expression in which formulas are searched for: without blanks, and with plain
characters for the typographic signs of multiplication, division and powers. -/
def normalizeChars (chars : List Char) : List Char :=
  (Text.compact chars).flatMap plainForm

/-- The form of an expression in which formulas are searched for. -/
def normalize (source : String) : String :=
  String.ofList (normalizeChars source.toList)

/-- A formula whose pattern was found in an expression. -/
structure Finding where
  formula : String
  pattern : String
  /-- The normalized expression. -/
  expression : String
  /-- The text of every group that took part, by the number of the group. -/
  captures : List (Nat × String)
  /-- How likely it is that the formula is meant, between nought and one. -/
  confidence : Float
  deriving Repr

/-- A formula that is ready to be searched for. -/
structure Probe where
  formula : Formula
  search : Search
  /-- The topic in lower case. -/
  topic : String

/-- Makes a formula ready to be searched for, whatever case it is written in; formulas whose pattern
the engine cannot read are passed over. -/
def Probe.of? (engine : Engine) (formula : Formula) : Option Probe := do
  let search ← engine.compile? true formula.pattern
  return ⟨formula, search, Text.lower formula.topic⟩

/-- The texts of the groups that took part in a match, by the numbers of the groups. -/
def Capture.parts (capture : Capture) : List (Nat × String) :=
  capture.groups.zipIdx.filterMap fun (part?, index) => part?.map fun part => (index + 1, part)

/-- How likely a formula is meant. Every sign speaks for it a little: a long pattern, a match from
the beginning, groups, and the topic in the expression. -/
def confidence (longPattern fromStart hasGroups onTopic : Bool) : Float :=
  let sum (value : Float) (sign : Bool) (weight : Float) : Float :=
    if sign then value + weight else value
  let likelihood :=
    sum (sum (sum (sum 0.5 longPattern 0.2) fromStart 0.1) hasGroups 0.2) onTopic 0.1
  if 1 < likelihood then 1 else likelihood

/-- Patterns of more characters count as long. -/
def longPattern : Nat := 10

/-- Searches for a formula. The expression is given in its normalized form, and this in lower
case. -/
def Probe.find? (probe : Probe) (expression lowered : String) : Option Finding := do
  let capture ← probe.search.leftmost? expression
  return {
    formula := probe.formula.name
    pattern := probe.formula.pattern
    expression
    captures := capture.parts
    confidence := confidence (longPattern < probe.formula.pattern.length) (capture.start == 0)
      (0 < probe.search.groupCount) (Text.contains lowered probe.topic) }

/-- The formulas of a catalog that can be searched for. -/
structure Detector where
  probes : List Probe

/-- Makes the formulas of a catalog ready to be searched for by an engine. -/
def Engine.detector (engine : Engine) (catalog : Catalog) : Detector :=
  ⟨catalog.formulas.filterMap (Probe.of? engine)⟩

namespace Detector

/-- Makes the formulas of a catalog ready to be searched for by the standard engine. -/
def of (catalog : Catalog) : Detector :=
  Engine.standard.detector catalog

/-- Whether a finding is more likely than another. -/
def likelier (left right : Finding) : Bool :=
  right.confidence < left.confidence

/-- The formulas found in an expression, the most likely first. Equally likely ones keep the order
of the catalog. -/
def detect (detector : Detector) (source : String) : List Finding :=
  let expression := normalize source
  let lowered := Text.lower expression
  Ranking.rank likelier (detector.probes.filterMap fun probe => probe.find? expression lowered)

end Detector

end Workings
