import Workings.Proofs.Formula.Rewriting

/-!
# A calculator beside its supervisor

A supervisor searches for formulas in the canonical form of an expression, a calculator in the text
as it is written. So the two hand out one worksheet where both texts are normalized alike or no
formula is found in either, and nowhere else: every finding tells the normalized text it comes from.
What formulas are found makes no other difference than what the rewriter makes of it. And a
calculator turns into a failed worksheet what breaks off under its supervisor.
-/

namespace Workings

/-- The worksheet with these findings as those of the whole expression. -/
def Worksheet.reporting (findings : List Finding) : Worksheet → Worksheet
  | failed expression message => failed expression message
  | finished expression value _ lines warnings =>
    finished expression value findings lines warnings

namespace Supervisor

variable {supervisor : Supervisor} {source : String} {expr : Expr} {bindings : Bindings}
  {found : List Finding}

/-- A finding tells in which text it was found. -/
theorem expression_of_mem_detect {finding : Finding}
    (reported : finding ∈ supervisor.detector.detect source) :
    finding.expression = normalize source := by
  rw [supervisor.attuned, Engine.mem_detect_detector] at reported
  obtain ⟨formula, -, isFound⟩ := reported
  exact (formula.reports_of_finding? isFound).expression

/-- The same is found in two texts if they are normalized alike or nothing is found in either, and
only then. -/
theorem detect_eq_iff (left right : String) :
    supervisor.detector.detect left = supervisor.detector.detect right
      ↔ normalize left = normalize right
        ∨ supervisor.detector.detect left = [] ∧ supervisor.detector.detect right = [] := by
  constructor
  · intro same
    cases isFound : supervisor.detector.detect left with
    | nil => exact .inr ⟨rfl, same ▸ isFound⟩
    | cons finding others =>
      have reported : finding ∈ supervisor.detector.detect left := isFound ▸ List.mem_cons_self
      left
      rw [← expression_of_mem_detect reported, ← expression_of_mem_detect (same ▸ reported)]
  · rintro (same | ⟨left, right⟩)
    · exact Detector.detect_eq_of_normalize_eq _ same
    · rw [left, right]

/-- The findings on the worksheet of an expression are those it was given. -/
theorem findings_of_evaluateRead {sheet : Worksheet}
    (outcome : supervisor.evaluateRead source expr bindings found = .ok sheet) :
    sheet.findings = found := by
  obtain ⟨_, _, _, -, -, rfl⟩ := evaluateRead_eq_ok_iff.1 outcome
  rfl

/-- Findings of which the rewriter makes the same tree make no difference but that they are
reported. -/
theorem evaluateRead_reporting {other : List Finding}
    (alike : supervisor.rewrite expr found = supervisor.rewrite expr other) :
    supervisor.evaluateRead source expr bindings found
      = (supervisor.evaluateRead source expr bindings other).map (·.reporting found) := by
  unfold evaluateRead
  rw [alike]
  cases supervisor.rewrite expr other with
  | error crash => rfl
  | ok rewritten =>
    simp only [bind, Except.bind]
    cases rewritten.workOut bindings supervisor.ceiling <;> rfl

end Supervisor

/-- A calculator that remembers nothing works everything out. -/
theorem Calculator.evaluate_fresh (settings : Settings) (supervisor : Supervisor) (now : Nat)
    (source : String) (bindings : Bindings) :
    ((fresh settings supervisor).evaluate now source bindings).1
      = supervisor.sheet source bindings := by
  have unserved : (fresh settings supervisor).serves now source bindings = false := by
    simp only [serves, lookUp]
    split <;> rfl
  exact (sound_fresh settings supervisor).evaluate_of_not_serves unserved

/-- Where a supervisor and a calculator hand out one worksheet for an expression, the same is found
in both texts, and the evaluation does not break off. -/
theorem Supervisor.detect_eq_of_evaluate_eq {supervisor : Supervisor} {source : String}
    {expr : Expr} {bindings : Bindings} (read : supervisor.read source = .ok expr)
    (same : supervisor.evaluate source bindings = .ok (supervisor.sheet source bindings)) :
    supervisor.detector.detect source = supervisor.detector.detect expr.text
      ∧ ∃ sheet, supervisor.evaluateRead source expr bindings
        (supervisor.detector.detect source) = .ok sheet := by
  simp only [evaluate, sheet, read] at same
  cases outcome : supervisor.evaluateRead source expr bindings
      (supervisor.detector.detect source) with
  | error crash =>
    simp only [outcome] at same
    simpa [Calculator.crashed, Worksheet.failure?] using failure?_of_evaluateRead same
  | ok sheet =>
    simp only [outcome] at same
    have there := findings_of_evaluateRead same
    have here := findings_of_evaluateRead outcome
    exact ⟨here.symm.trans there, sheet, rfl⟩

/-- A supervisor and a calculator made for it hand out one worksheet for a text that cannot be read.
For a text that is read they do if the text and the canonical form of the expression are normalized
alike, or no formula is found in either, and if the evaluation does not break off; and only then.
Where the rewriter makes the same tree of what is found in both texts, the worksheets agree in all
but these findings. -/
theorem Supervisor.evaluate_eq_fresh_iff (settings : Settings) (supervisor : Supervisor)
    (now : Nat) (source : String) (bindings : Bindings) :
    (supervisor.evaluate source bindings
        = .ok ((Calculator.fresh settings supervisor).evaluate now source bindings).1
      ↔ ∀ expr, supervisor.read source = .ok expr →
        (normalize source = normalize expr.text
          ∨ supervisor.detector.detect source = []
            ∧ supervisor.detector.detect expr.text = [])
        ∧ ∃ sheet, supervisor.evaluateRead source expr bindings
            (supervisor.detector.detect source) = .ok sheet)
    ∧ ∀ expr, supervisor.read source = .ok expr →
        supervisor.rewrite expr (supervisor.detector.detect source)
          = supervisor.rewrite expr (supervisor.detector.detect expr.text) →
        ∀ sheet, supervisor.evaluate source bindings = .ok sheet →
          ((Calculator.fresh settings supervisor).evaluate now source bindings).1
            = sheet.reporting (supervisor.detector.detect source) := by
  simp only [Calculator.evaluate_fresh, ← detect_eq_iff]
  refine ⟨⟨?_, ?_⟩, ?_⟩
  · intro same expr read
    exact detect_eq_of_evaluate_eq read same
  · intro agree
    unfold evaluate sheet
    cases read : supervisor.read source with
    | error fault => rfl
    | ok expr =>
      obtain ⟨same, sheet, outcome⟩ := agree expr read
      simp only [← same, outcome]
  · intro expr read alike worksheet outcome
    simp only [evaluate, read] at outcome
    simp only [sheet, read, evaluateRead_reporting alike, outcome]
    rfl

section Noughts

/-- A formula that is found where a nought is. -/
def noughts : Catalog :=
  ⟨[⟨"Nought", "(?-i)0", "7", 1, "", "", ""⟩]⟩

/-- The formula is found in a number that is written with a leading nought, and not in its canonical
form. -/
theorem detect_noughts :
    (Engine.standard.detector noughts).detect "01" ≠ []
      ∧ (Engine.standard.detector noughts).detect "1" = [] := by
  have aNought : Engine.standard.find? "(?-i)0" "01" = some (0, ⟨0, []⟩) := by decide +kernel
  have noNought : Engine.standard.find? "(?-i)0" "1" = none := by decide +kernel
  have normal : normalize "01" = "01" := by decide
  have canonical : normalize "1" = "1" := by decide
  constructor <;>
    simp [Engine.detect_detector, noughts, Formula.finding?_eq, aNought, noNought, normal,
      canonical, Ranking.rank, Ranking.insert]

/-- A number that is written with a blank before it, and one that is written with a leading
nought. -/
theorem Supervisor.evaluate_eq_fresh_spaced :
    let supervisor := Supervisor.ofCatalog noughts .identity 256
    let calculator := Calculator.fresh .standard supervisor
    supervisor.evaluate " 0" .empty = .ok (calculator.evaluate 0 " 0" .empty).1
      ∧ ∀ sheet, supervisor.evaluate "01" .empty = .ok sheet →
        (calculator.evaluate 0 "01" .empty).1
          = sheet.reporting (supervisor.detector.detect "01") := by
  intro supervisor calculator
  have rewrites (expr : Expr) (found : List Finding) : supervisor.rewrite expr found = .ok expr :=
    rewrite_of_identity rfl expr found
  constructor
  · refine (Supervisor.evaluate_eq_fresh_iff _ _ _ _ _).1.2 ?_
    intro expr read
    obtain rfl : Expr.number 0 ⟨1, 2⟩ = expr := Except.ok.inj read
    have spaced : normalize " 0" = normalize (Expr.number 0 ⟨1, 2⟩).text := by decide +kernel
    exact ⟨.inl spaced, _, evaluateRead_eq_ok_iff.2 ⟨_, _, _, rewrites _ _, rfl, rfl⟩⟩
  · intro sheet outcome
    exact (Supervisor.evaluate_eq_fresh_iff _ _ _ _ _).2 (.number 1 ⟨0, 2⟩) rfl
      ((rewrites _ _).trans (rewrites _ _).symm) sheet outcome

/-- A supervisor and a calculator report different findings for a number that is written with a
leading nought. -/
theorem Supervisor.evaluate_ne_fresh_nought :
    let supervisor := Supervisor.ofCatalog noughts .identity 256
    supervisor.evaluate "01" .empty
      ≠ .ok ((Calculator.fresh .standard supervisor).evaluate 0 "01" .empty).1 := by
  intro supervisor same
  rw [Calculator.evaluate_fresh] at same
  have read : supervisor.read "01" = .ok (.number 1 ⟨0, 2⟩) := rfl
  have canonical : (Expr.number 1 ⟨0, 2⟩).text = "1" := by decide +kernel
  have found := (detect_eq_of_evaluate_eq read same).1
  rw [canonical] at found
  exact detect_noughts.1 (found.trans detect_noughts.2)

end Noughts

end Workings
