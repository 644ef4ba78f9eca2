import Workings.Proofs.Formula.Normalization
import Workings.Proofs.Number.Decoding
import Workings.Proofs.Ranking

/-!
# What a detection reports

A detection reports every formula of the catalog whose pattern the engine can read and finds in the
normalized expression. It reports each of them once and nothing else, the most likely first, and
equally likely ones as the catalog lists them. Which patterns can be read, where they are found and
which of their groups take part is for the engine to answer, and nothing is supposed of its answers.
-/

namespace Workings

/-- What an engine finds of a pattern in a text, if the pattern can be read and is found: the number
of its groups, and its leftmost match. -/
def Engine.find? (engine : Engine) (pattern text : String) : Option (Nat × Capture) := do
  let search ← engine.compile? true pattern
  let capture ← search.leftmost? text
  return (search.groupCount, capture)

/-- Parts that are those of the groups that took part in a match, under their numbers from one on,
and nothing else. -/
structure Capture.Holds (capture : Capture) (parts : List (Nat × String)) : Prop where
  mem_iff : ∀ number part,
    (number, part) ∈ parts
      ↔ ∃ index, number = index + 1 ∧ capture.groups[index]? = some (some part)
  ascending : parts.Pairwise fun earlier later => earlier.1 < later.1

/-- A finding that is a match of a formula in a text. -/
structure Finding.IsOf (finding : Finding) (engine : Engine) (formula : Formula) (text : String) :
    Prop where
  name : finding.formula = formula.name
  pattern : finding.pattern = formula.pattern
  captures : ∃ groups capture, engine.find? formula.pattern text = some (groups, capture)
    ∧ capture.Holds finding.captures

/-- A finding that reports the match of a formula in a normalized expression, and how likely it
is. -/
structure Finding.Reports (finding : Finding) (engine : Engine) (formula : Formula)
    (normal : String) : Prop extends finding.IsOf engine formula normal where
  expression : finding.expression = normal
  confidence : ∃ groups capture, engine.find? formula.pattern normal = some (groups, capture)
    ∧ finding.confidence = Workings.confidence (longPattern < formula.pattern.length)
      (capture.start == 0) (0 < groups)
      (Text.contains (Text.lower normal) (Text.lower formula.topic))

/-- Findings that report the formulas of a catalog that an engine finds in a normalized
expression. -/
structure Detection (engine : Engine) (catalog : Catalog) (normal : String)
    (reported : List Finding) : Prop where
  /-- Every formula that is found is reported once and nothing else is, and equally likely findings
  stand as the catalog lists their formulas. -/
  complete : ∃ listed : List Finding,
    List.Forall₂ (fun finding formula => finding.Reports engine formula normal) listed
      (catalog.formulas.filter fun formula => (engine.find? formula.pattern normal).isSome)
    ∧ reported.Perm listed
    ∧ ∀ likelihood, reported.filter (fun finding => finding.confidence = likelihood)
      = listed.filter fun finding => finding.confidence = likelihood
  bounded : ∀ finding ∈ reported, 0 ≤ finding.confidence ∧ finding.confidence ≤ 1
  descending : reported.Pairwise fun earlier later => later.confidence ≤ earlier.confidence

section Search

variable {engine : Engine} {catalog : Catalog} {formula : Formula} {normal source : String}
  {finding : Finding}

/-- What is found of a formula in a normalized expression. -/
def Formula.finding? (formula : Formula) (engine : Engine) (normal : String) :
    Option Finding :=
  (Probe.of? engine formula).bind fun probe => probe.find? normal (Text.lower normal)

/-- The parts of a match are those of the groups that took part. -/
theorem Capture.holds_parts (capture : Capture) : capture.Holds capture.parts where
  mem_iff number part := by
    simp only [parts, List.mem_filterMap, Prod.exists, List.mem_zipIdx_iff_getElem?,
      Option.map_eq_some_iff, Prod.mk.injEq]
    constructor
    · rintro ⟨_, index, taken, _, rfl, rfl, rfl⟩
      exact ⟨index, rfl, taken⟩
    · rintro ⟨index, rfl, taken⟩
      exact ⟨some part, index, taken, part, rfl, rfl, rfl⟩
  ascending := by
    have numbered : capture.groups.zipIdx.Pairwise fun earlier later => earlier.2 < later.2 := by
      rw [← List.pairwise_map (f := Prod.snd), List.zipIdx_map_snd]
      exact List.pairwise_lt_range'
    refine List.pairwise_filterMap.2 (numbered.imp ?_)
    rintro ⟨_, earlier⟩ ⟨_, later⟩ before first firstKept second secondKept
    obtain ⟨_, -, rfl⟩ := Option.map_eq_some_iff.1 firstKept
    obtain ⟨_, -, rfl⟩ := Option.map_eq_some_iff.1 secondKept
    exact Nat.succ_lt_succ before

/-- What is found of a formula is what the engine finds of its pattern. -/
theorem Formula.finding?_eq (formula : Formula) (engine : Engine) (normal : String) :
    formula.finding? engine normal
      = (engine.find? formula.pattern normal).map fun (groups, capture) =>
        { formula := formula.name
          pattern := formula.pattern
          expression := normal
          captures := capture.parts
          confidence := confidence (longPattern < formula.pattern.length) (capture.start == 0)
            (0 < groups) (Text.contains (Text.lower normal) (Text.lower formula.topic)) } := by
  unfold finding? Engine.find? Probe.of?
  cases engine.compile? true formula.pattern with
  | none => rfl
  | some search =>
    dsimp only [Probe.find?, Option.bind_eq_bind, Option.bind_some, Option.pure_def]
    cases search.leftmost? normal with
    | none => rfl
    | some capture => rfl

/-- What is found of a formula reports its match. -/
theorem Formula.reports_of_finding? (found : formula.finding? engine normal = some finding) :
    finding.Reports engine formula normal := by
  rw [finding?_eq] at found
  obtain ⟨⟨groups, capture⟩, occurs, rfl⟩ := Option.map_eq_some_iff.1 found
  exact {
    name := rfl
    pattern := rfl
    captures := ⟨groups, capture, occurs, capture.holds_parts⟩
    expression := rfl
    confidence := ⟨groups, capture, occurs, rfl⟩ }

/-- Something is found of the formulas whose patterns are found. -/
theorem Formula.isSome_finding? (formula : Formula) (engine : Engine) (normal : String) :
    (formula.finding? engine normal).isSome = (engine.find? formula.pattern normal).isSome := by
  rw [finding?_eq, Option.isSome_map]

/-- A detection ranks what is found of the formulas of the catalog. -/
theorem Engine.detect_detector (engine : Engine) (catalog : Catalog) (source : String) :
    (engine.detector catalog).detect source
      = Ranking.rank Detector.likelier (catalog.formulas.filterMap fun formula =>
          formula.finding? engine (normalize source)) := by
  rw [Detector.detect, detector, List.filterMap_filterMap]
  rfl

/-- What is reported is what is found of the formulas of the catalog. -/
theorem Engine.mem_detect_detector :
    finding ∈ (engine.detector catalog).detect source
      ↔ ∃ formula ∈ catalog.formulas,
        formula.finding? engine (normalize source) = some finding := by
  rw [detect_detector, (Ranking.rank_perm _ _).mem_iff, List.mem_filterMap]

/-- A detection depends on the normalized expression alone. -/
theorem Detector.detect_eq_of_normalize_eq (detector : Detector) {left right : String}
    (same : normalize left = normalize right) : detector.detect left = detector.detect right := by
  simp only [detect, same]

end Search

/-- A list from which some elements are taken and turned into others, and the elements taken. -/
theorem forall₂_filterMap_filter {Element Result : Type} {relation : Result → Element → Prop}
    {turn? : Element → Option Result} {taken : Element → Bool} (elements : List Element)
    (related : ∀ element result, turn? element = some result → relation result element)
    (agree : ∀ element, (turn? element).isSome = taken element) :
    List.Forall₂ relation (elements.filterMap turn?) (elements.filter taken) := by
  induction elements with
  | nil => exact .nil
  | cons element rest hypothesis =>
    have here := agree element
    rw [List.filterMap_cons, List.filter_cons]
    cases turned : turn? element with
    | none =>
      rw [turned, Option.isSome_none] at here
      rwa [← here, if_neg Bool.false_ne_true]
    | some result =>
      rw [turned, Option.isSome_some] at here
      rw [← here, if_pos rfl]
      exact .cons (related element result turned) hypothesis

section Likelihood

/-- A confidence lies between nought and one. -/
theorem confidence_bounded : ∀ longPattern fromStart hasGroups onTopic : Bool,
    0 ≤ confidence longPattern fromStart hasGroups onTopic
      ∧ confidence longPattern fromStart hasGroups onTopic ≤ 1 := by
  decide

/-- Of two confidences either is at most the other, unless it is greater. -/
theorem confidence_le_or_lt : ∀ a b c d a' b' c' d' : Bool,
    confidence a' b' c' d' ≤ confidence a b c d
      ∨ confidence a b c d < confidence a' b' c' d' := by
  decide +kernel

/-- To be likelier is a precedence. -/
theorem strict_likelier : Ranking.Strict Detector.likelier where
  irrefl finding := by simp [Detector.likelier, Number.not_lt_self]
  trans first second third firstBefore secondBefore := by
    simp only [Detector.likelier, decide_eq_true_eq] at *
    exact Number.lt_trans secondBefore firstBefore

end Likelihood

/-- Whatever engine searches for them, a detection reports the formulas of the catalog that are
found in the normalized expression, the most likely first. It goes by that expression alone, and
blanks play no part in it. -/
theorem Detector.detection (engine : Engine) (catalog : Catalog) (source : String) :
    let detector := engine.detector catalog
    Normalizes source.toList (normalize source).toList
      ∧ Detection engine catalog (normalize source) (detector.detect source)
      ∧ detector.detect (normalize source) = detector.detect source
      ∧ ∀ other : String, Text.compact other.toList = Text.compact source.toList →
        detector.detect other = detector.detect source := by
  intro detector
  have reports {finding : Finding} (member : finding ∈ detector.detect source) :
      ∃ formula, finding.Reports engine formula (normalize source) := by
    obtain ⟨formula, -, found⟩ := Engine.mem_detect_detector.1 member
    exact ⟨formula, formula.reports_of_finding? found⟩
  refine ⟨normalizes_normalize source, ⟨⟨catalog.formulas.filterMap fun formula =>
    formula.finding? engine (normalize source), ?_, ?_, ?_⟩, ?_, ?_⟩, ?_, ?_⟩
  · exact forall₂_filterMap_filter _ (fun formula _ found => formula.reports_of_finding? found)
      fun formula => formula.isSome_finding? engine (normalize source)
  · rw [engine.detect_detector]
    exact Ranking.rank_perm _ _
  · intro likelihood
    rw [engine.detect_detector]
    refine strict_likelier.filter_rank ?_ _
    intro first second third firstLikely secondLikely
    rw [decide_eq_true_eq] at firstLikely secondLikely
    rw [likelier, likelier, firstLikely, secondLikely]
  · intro finding member
    obtain ⟨formula, -, -, _, capture, -, likely⟩ := reports member
    rw [likely]
    exact confidence_bounded _ _ _ _
  · have ordered : Ranking.Ordered likelier (detector.detect source) := by
      rw [engine.detect_detector]
      exact strict_likelier.ordered_rank _
    refine List.Pairwise.imp_of_mem ?_ ordered
    intro earlier later earlierMember laterMember notBefore
    obtain ⟨_, -, -, _, _, -, earlierLikely⟩ := reports earlierMember
    obtain ⟨_, -, -, _, _, -, laterLikely⟩ := reports laterMember
    rw [likelier, decide_eq_false_iff_not, earlierLikely, laterLikely] at notBefore
    rw [earlierLikely, laterLikely]
    exact (confidence_le_or_lt _ _ _ _ _ _ _ _).resolve_right notBefore
  · exact detect_eq_of_normalize_eq _ (normalize_normalize source)
  · intro other same
    exact detect_eq_of_normalize_eq _ (normalize_eq_of_compact_eq same)

/-- Two squares, and a formula whose pattern cannot be read. -/
def squares : Catalog :=
  ⟨[⟨"Broken", "(", "", 8, "", "", ""⟩,
    ⟨"Square of a Sum", r"(?-i)\(([a-z])\+([a-z])\)\^2", "", 8, "", "", ""⟩,
    ⟨"Square of a Difference", r"(?-i)\(([a-z])-([a-z])\)\^2", "", 8, "", "", ""⟩]⟩

/-- Of two squares, that of a sum is found in one that is written with blanks and a typographic
sign. -/
theorem Detector.detection_spaced :
    let detector := Engine.standard.detector squares
    Text.compact "( a + b )²".toList = Text.compact "(a+b)²".toList
      ∧ Normalizes "(a+b)²".toList "(a+b)^2".toList
      ∧ Detection .standard squares "(a+b)^2" (detector.detect "( a + b )²")
      ∧ (detector.detect "( a + b )²").map (fun finding => (finding.formula, finding.captures))
        = [("Square of a Sum", [(1, "a"), (2, "b")])] := by
  intro detector
  have blanks : Text.compact "( a + b )²".toList = Text.compact "(a+b)²".toList := by decide
  have normal : normalize "(a+b)²" = "(a+b)^2" := by decide
  obtain ⟨normalizes, reports, -, same⟩ := Detector.detection .standard squares "(a+b)²"
  rw [normal, ← same _ blanks] at reports
  rw [normal] at normalizes
  exact ⟨blanks, normalizes, reports, by decide +kernel⟩

end Workings
