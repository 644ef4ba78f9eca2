import Workings.Proofs.Calculator.Memory
import Workings.Proofs.Calculator.Reach
import Workings.Proofs.Formula.Detection

/-!
# What rewriters are handed

A rewriter is handed a formula together with a finding, and the two are brought together by name: an
evaluation looks for the formula that is called like the most likely finding, and applying a formula
looks for the finding that is called like the formula. Nothing forbids two formulas of one name. The
finding is therefore a match of some formula of that name, and the formula is the first one of that
name; it is a match of the formula itself where the two have the same pattern, and only there.
-/

namespace Workings

namespace Supervisor

/-- The formulas that a rewriter may be handed, each with a finding in the text that was
searched. -/
inductive Hands (supervisor : Supervisor) (searched : String) : Formula → Finding → Prop where
  /-- An evaluation hands over the most likely finding, with the formula of its name. -/
  | evaluating {formula : Formula} {finding : Finding}
      (chosen : supervisor.chosen? (supervisor.detector.detect searched)
        = some (formula, finding)) :
      Hands supervisor searched formula finding
  /-- Applying a formula hands it over with the most likely finding of its name. -/
  | applying {name : String} {formula : Formula} {finding : Finding}
      (named : supervisor.catalog.named? name = some formula)
      (found : (supervisor.detector.detect searched).find?
        (fun finding => finding.formula = formula.name) = some finding) :
      Hands supervisor searched formula finding

/-- Rewriters that make the same of all that they may be handed with a finding in a text. -/
def Agree (supervisor : Supervisor) (searched : String) (left right : Rewriter) : Prop :=
  ∀ expr formula finding, supervisor.Hands searched formula finding →
    left expr formula finding = right expr formula finding

variable {supervisor : Supervisor} {searched : String} {formula : Formula} {finding : Finding}

/-- What is handed over is a finding that was reported, with the first formula of its name. -/
theorem Hands.named (hands : supervisor.Hands searched formula finding) :
    finding ∈ supervisor.detector.detect searched ∧ finding.formula = formula.name
      ∧ supervisor.catalog.named? formula.name = some formula := by
  cases hands with
  | evaluating chosen =>
    simp only [chosen?, Option.bind_eq_bind, Option.bind_eq_some_iff, Option.pure_def,
      Option.some.injEq, Prod.mk.injEq] at chosen
    obtain ⟨head, first, named, known, rfl, rfl⟩ := chosen
    have called := (Catalog.mem_of_named? known).2
    exact ⟨List.mem_of_head? first, called.symm, called ▸ known⟩
  | applying known found =>
    have called := (Catalog.mem_of_named? known).2
    exact ⟨List.mem_of_find?_eq_some found, by simpa using List.find?_some found, called ▸ known⟩

/-- What is handed over is a match of some formula of that name. -/
theorem Hands.exists_isOf (hands : supervisor.Hands searched formula finding) :
    ∃ meant ∈ supervisor.catalog.formulas, meant.name = formula.name
      ∧ finding.IsOf supervisor.engine meant (normalize searched) := by
  obtain ⟨reported, called, -⟩ := hands.named
  rw [supervisor.attuned, Engine.mem_detect_detector] at reported
  obtain ⟨meant, member, found⟩ := reported
  have isOf := (meant.reports_of_finding? found).toIsOf
  exact ⟨meant, member, isOf.name.symm.trans called, isOf⟩

end Supervisor

/-- A match of a formula is a match of another one of the same name if the two have the same
pattern, and only then. -/
theorem Finding.IsOf.isOf_iff {finding : Finding} {engine : Engine} {meant formula : Formula}
    {text : String} (isOf : finding.IsOf engine meant text) (called : meant.name = formula.name) :
    finding.IsOf engine formula text ↔ meant.pattern = formula.pattern := by
  constructor
  · intro other
    exact isOf.pattern.symm.trans other.pattern
  · intro same
    exact {
      name := isOf.name.trans called
      pattern := isOf.pattern.trans same
      captures := same ▸ isOf.captures }

section Agreement

variable {supervisor : Supervisor} {rewriter : Rewriter} {searched : String}

/-- Rewriters that agree rewrite alike. -/
theorem Supervisor.Agree.rewrite_eq (agree : supervisor.Agree searched supervisor.rewriter rewriter)
    (expr : Expr) :
    { supervisor with rewriter }.rewrite expr (supervisor.detector.detect searched)
      = supervisor.rewrite expr (supervisor.detector.detect searched) := by
  have unchanged (findings : List Finding) :
      { supervisor with rewriter }.chosen? findings = supervisor.chosen? findings := rfl
  simp only [rewrite, unchanged]
  cases chosen : supervisor.chosen? (supervisor.detector.detect searched) with
  | none => rfl
  | some handed => exact (agree expr handed.1 handed.2 (.evaluating chosen)).symm

/-- Under rewriters that agree evaluations come out alike. -/
theorem Supervisor.Agree.evaluateRead_eq
    (agree : supervisor.Agree searched supervisor.rewriter rewriter) (source : String) (expr : Expr)
    (bindings : Bindings) :
    { supervisor with rewriter }.evaluateRead source expr bindings
        (supervisor.detector.detect searched)
      = supervisor.evaluateRead source expr bindings (supervisor.detector.detect searched) := by
  unfold evaluateRead
  rw [agree.rewrite_eq]
  rfl

namespace Calculator

variable (calculator : Calculator) (now : Nat)

/-- Reading does not depend on the rewriter. -/
theorem read_employing (source : String) :
    (calculator.employing rewriter).read now source
      = ((calculator.read now source).1, (calculator.read now source).2.employing rewriter) := by
  have unchanged : (calculator.employing rewriter).supervisor.read source
      = calculator.supervisor.read source := rfl
  unfold read
  rw [unchanged]
  dsimp only [employing]
  generalize lookUp calculator.settings calculator.expressions now source = looked
  obtain ⟨_ | expr, expressions⟩ := looked
  · cases calculator.supervisor.read source <;> rfl
  · rfl

/-- Searching does not depend on the rewriter. -/
theorem detect_employing (source : String) :
    (calculator.employing rewriter).detect now source
      = ((calculator.detect now source).1,
          (calculator.detect now source).2.employing rewriter) := by
  unfold detect
  dsimp only [employing]
  generalize lookUp calculator.settings calculator.findings now source = looked
  obtain ⟨_ | found, findings⟩ := looked <;> rfl

variable {calculator}

/-- Under rewriters that agree a calculator evaluates alike. -/
theorem Sound.evaluate_employing (sound : calculator.Sound) (source : String) (bindings : Bindings)
    (agree : calculator.supervisor.Agree source calculator.supervisor.rewriter rewriter) :
    ((calculator.employing rewriter).evaluate now source bindings).1
      = (calculator.evaluate now source bindings).1 := by
  unfold evaluate
  dsimp only [employing]
  generalize looked_eq : lookUp calculator.settings calculator.worksheets now
    (evaluationKey source bindings.pairs) = looked
  obtain ⟨_ | sheet, worksheets⟩ := looked
  · have every := every_lookUp sound.worksheets looked_eq
    have looked : Sound { calculator with worksheets } := ⟨sound.expressions, sound.findings, every⟩
    change (workOut (employing { calculator with worksheets } rewriter) now source bindings).1
      = (workOut { calculator with worksheets } now source bindings).1
    unfold workOut
    rw [read_employing]
    have keeps := looked.read_keeps now source
    generalize read { calculator with worksheets } now source = reading at keeps
    obtain ⟨fault | expr, afterRead⟩ := reading
    · rfl
    · dsimp only at keeps ⊢
      rw [detect_employing]
      have found := keeps.sound.detect_fst now source
      have spares := afterRead.spares_detect now source
      generalize afterRead.detect now source = detected at found spares
      obtain ⟨findings, afterDetect⟩ := detected
      dsimp only at found spares ⊢
      obtain rfl := found
      rw [← spares.supervisor]
      have same : afterDetect.supervisor = calculator.supervisor :=
        spares.supervisor.trans keeps.supervisor
      rw [← same] at agree
      have outcome := agree.evaluateRead_eq source expr bindings
      dsimp only [employing]
      rw [outcome]
      split <;> rfl
  · rfl

/-- Under rewriters that agree a calculator applies formulas alike. -/
theorem Sound.apply_employing (sound : calculator.Sound) (source name : String)
    (agree : calculator.supervisor.Agree source calculator.supervisor.rewriter rewriter) :
    ((calculator.employing rewriter).apply now source name).1
      = (calculator.apply now source name).1 := by
  unfold apply
  rw [read_employing]
  have keeps := sound.read_keeps now source
  generalize calculator.read now source = reading at keeps
  obtain ⟨fault | expr, afterRead⟩ := reading
  · rfl
  · dsimp only at keeps ⊢
    have unchanged : (afterRead.employing rewriter).supervisor.catalog
        = afterRead.supervisor.catalog := rfl
    rw [unchanged]
    cases named : afterRead.supervisor.catalog.named? name with
    | none => rfl
    | some formula =>
      dsimp only
      rw [detect_employing]
      have found := keeps.sound.detect_fst now source
      have spares := afterRead.spares_detect now source
      generalize afterRead.detect now source = detected at found spares
      obtain ⟨findings, afterDetect⟩ := detected
      dsimp only at found spares ⊢
      obtain rfl := found
      cases first : (afterRead.supervisor.detector.detect source).find?
          fun finding => finding.formula = formula.name with
      | none => rfl
      | some finding =>
        rw [← keeps.supervisor] at agree
        have same := agree expr formula finding (.applying named first)
        rw [spares.supervisor]
        dsimp only [employing]
        rw [← same]
        split <;> rfl

end Calculator

end Agreement

/-- A rewriter is handed a match of the formula itself if the formula has the pattern that was
found, and only then; always it is the first formula of its name, and the match is one of some
formula of that name. Nothing else that a rewriter makes has a part in an evaluation or in applying
a formula, whatever happened before. -/
theorem Supervisor.handed_isOf_iff (settings : Settings) (supervisor : Supervisor)
    (history : List (Nat × Calculator.Command)) (now : Nat) (source name : String)
    (bindings : Bindings) :
    let calculator := ((Calculator.fresh settings supervisor).run history).2
    (∀ searched formula finding, supervisor.Hands searched formula finding →
      supervisor.catalog.named? formula.name = some formula
        ∧ ∃ meant ∈ supervisor.catalog.formulas, meant.name = formula.name
          ∧ finding.IsOf supervisor.engine meant (normalize searched)
          ∧ (finding.IsOf supervisor.engine formula (normalize searched)
            ↔ meant.pattern = formula.pattern))
    ∧ (∀ rewriter, (∀ expr, supervisor.read source = .ok expr →
          supervisor.Agree expr.text supervisor.rewriter rewriter) →
        { supervisor with rewriter }.evaluate source bindings
          = supervisor.evaluate source bindings)
    ∧ ∀ rewriter, supervisor.Agree source supervisor.rewriter rewriter →
        ((calculator.employing rewriter).evaluate now source bindings).1
            = (calculator.evaluate now source bindings).1
          ∧ ((calculator.employing rewriter).apply now source name).1
            = (calculator.apply now source name).1 := by
  intro calculator
  refine ⟨?_, ?_, ?_⟩
  · intro searched formula finding hands
    obtain ⟨meant, member, called, isOf⟩ := hands.exists_isOf
    exact ⟨hands.named.2.2, meant, member, called, isOf, isOf.isOf_iff called⟩
  · intro rewriter agree
    have unchanged : { supervisor with rewriter }.read source = supervisor.read source := rfl
    simp only [evaluate, unchanged]
    cases result : supervisor.read source with
    | error fault => rfl
    | ok expr => exact (agree expr result).evaluateRead_eq source expr bindings
  · intro rewriter agree
    have faithful := (Calculator.faithful_fresh settings supervisor).run history
    rw [← faithful.supervisor] at agree
    exact ⟨faithful.sound.evaluate_employing now source bindings agree,
      faithful.sound.apply_employing now source name agree⟩

section Digits

/-- Two formulas, of the digit one and of the digit nought. -/
def digits (one nought : String) : Catalog :=
  ⟨[⟨one, "(?-i)1", "5", 1, "", "", ""⟩, ⟨nought, "(?-i)0", "7", 1, "", "", ""⟩]⟩

/-- The finding of the second formula in a nought. -/
def noughtFound (nought : String) : Finding :=
  ⟨nought, "(?-i)0", "0", [], confidence false true false true⟩

/-- The second formula alone is found in a nought. -/
theorem detect_digits (one nought : String) :
    (Engine.standard.detector (digits one nought)).detect "0" = [noughtFound nought] := by
  have noOne : Engine.standard.find? "(?-i)1" "0" = none := by decide +kernel
  have aNought : Engine.standard.find? "(?-i)0" "0" = some (0, ⟨0, []⟩) := by decide +kernel
  have normal : normalize "0" = "0" := by decide
  have onTopic : Text.contains (Text.lower "0") (Text.lower "") = true := by decide
  have short : decide (longPattern < "(?-i)0".length) = false := by decide
  rw [Engine.detect_detector]
  simp [digits, Formula.finding?_eq, noOne, aNought, normal, onTopic, short, Capture.parts,
    Ranking.rank, Ranking.insert, noughtFound]

/-- Of two formulas with names of their own, the one that was found is handed over with its
match. -/
theorem Supervisor.handed_isOf_nought :
    let nought : Formula := ⟨"Nought", "(?-i)0", "7", 1, "", "", ""⟩
    (Supervisor.ofCatalog (digits "One" "Nought") .byTemplate 256).Hands "0" nought
        (noughtFound "Nought")
      ∧ (noughtFound "Nought").IsOf .standard nought "0" := by
  intro nought
  have hands : (Supervisor.ofCatalog (digits "One" "Nought") .byTemplate 256).Hands "0" nought
      (noughtFound "Nought") := by
    refine .evaluating ?_
    have found := detect_digits "One" "Nought"
    simp only [ofCatalog, found]
    rfl
  refine ⟨hands, ?_⟩
  obtain ⟨-, meant, member, called, -, isOf_iff⟩ :=
    (Supervisor.handed_isOf_iff .standard _ [] 0 "0" "Nought" .empty).1 _ _ _ hands
  refine isOf_iff.2 ?_
  rcases List.mem_pair.1 member with rfl | rfl
  · exact absurd called (by decide)
  · rfl

/-- Of two formulas with one name, the first is handed over with a match of the second, and its
template is filled in. -/
theorem Supervisor.hands_namesake :
    let one : Formula := ⟨"Digit", "(?-i)1", "5", 1, "", "", ""⟩
    let supervisor := Supervisor.ofCatalog (digits "Digit" "Digit") .byTemplate 256
    supervisor.Hands "0" one (noughtFound "Digit")
      ∧ ¬ (noughtFound "Digit").IsOf .standard one "0"
      ∧ ∃ sheet, supervisor.evaluate "0" .empty = .ok sheet ∧ sheet.answer = "5" := by
  intro one supervisor
  have found : supervisor.detector.detect "0" = [noughtFound "Digit"] :=
    detect_digits "Digit" "Digit"
  have chosen : supervisor.chosen? [noughtFound "Digit"] = some (one, noughtFound "Digit") := rfl
  refine ⟨.evaluating (found ▸ chosen), ?_, ?_⟩
  · intro isOf
    exact absurd isOf.pattern (by decide)
  · have read : supervisor.read "0" = .ok (.number 0 ⟨0, 1⟩) := rfl
    have canonical : (Expr.number 0 ⟨0, 1⟩).text = "0" := by decide +kernel
    have filled : String.ofList (Rewriter.fillIn [] "5".toList) = "5" := by
      simp [Rewriter.fillIn]
    have rewritten : Rewriter.byTemplate (.number 0 ⟨0, 1⟩) one (noughtFound "Digit")
        = .ok (.number 5 ⟨0, 1⟩) := by
      simp only [Rewriter.byTemplate, noughtFound, one, filled]
      rfl
    obtain ⟨trace, worked⟩ : ∃ trace, (Expr.number 5 ⟨0, 1⟩).workOut .empty 256
        = .ok (.number 5, trace) := ⟨_, rfl⟩
    have answer : (Value.number 5).text = "5" := by decide +kernel
    have rewrites : supervisor.rewrite (.number 0 ⟨0, 1⟩) [noughtFound "Digit"]
        = .ok (.number 5 ⟨0, 1⟩) := by
      have employed : supervisor.rewriter = .byTemplate := rfl
      simp only [rewrite, chosen, employed, rewritten]
    have outcome : supervisor.evaluateRead "0" (.number 0 ⟨0, 1⟩) .empty [noughtFound "Digit"]
        = .ok _ := evaluateRead_eq_ok_iff.2 ⟨_, _, _, rewrites, worked, rfl⟩
    simp only [evaluate, read, canonical, found]
    exact ⟨_, outcome, answer⟩

end Digits

end Workings
