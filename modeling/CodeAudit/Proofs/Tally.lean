import CodeAudit.Proofs.Reordering

/-!
This module contains what the numbers in results and reports stand for. They are kept apart from the violations that
they count, and a violation that is off would count as nothing. They agree because no rule that is off runs.
-/

namespace CodeAudit.Lint

/-! ### One result -/

/--
A result of an engine whose numbers are those of its violations, and whose violations come from rules that run. Each is
under the name of its rule and as severe as the rule is, so none of them is off.
-/
structure FileResult.Tallied (result : FileResult) (e : Engine) : Prop where
  errors : result.errorCount = result.violations.countP (·.severity = .error)
  warnings : result.warningCount = result.violations.countP (·.severity = .warn)
  sum : result.errorCount + result.warningCount = result.violations.length
  on : ∀ v ∈ result.violations, v.severity ≠ .off
  rules : ∀ v ∈ result.violations, ∃ r ∈ e.enabledRules,
    e.active.get? v.ruleId = some r ∧ v.ruleId = r.spec.id ∧ v.severity = r.severity

theorem countP_severity {vs : List Violation} (h : ∀ v ∈ vs, v.severity ≠ .off)
    : vs.countP (·.severity = .error) + vs.countP (·.severity = .warn) = vs.length := by
  induction vs with
  | nil => rfl
  | cons v rest ih =>
    rw [List.forall_mem_cons] at h
    have hrest := ih h.2
    rw [List.countP_cons, List.countP_cons, List.length_cons]
    cases hseverity : v.severity with
    | off => exact absurd hseverity h.1
    | warn =>
      simp only [reduceCtorEq, decide_false, decide_true, Bool.false_eq_true, if_false, if_true]
      omega
    | error =>
      simp only [reduceCtorEq, decide_false, decide_true, Bool.false_eq_true, if_false, if_true]
      omega

namespace Engine

variable {e : Engine} {w : Workspace} {o : Outline} {result : FileResult}

/--
A rule that runs is found under its own name.
-/
theorem Sound.get?_enabled (he : e.Sound) {r : Rule} (hr : r ∈ e.enabledRules)
    : e.active.get? r.spec.id = some r := by
  rcases List.mem_map.mp (List.mem_of_mem_filter hr) with ⟨entry, hentry, rfl⟩
  rw [Table.get?_eq_some_iff he.nodup, (he.rules entry hentry).id_eq]
  exact hentry

theorem severity_of_enabled {r : Rule} (hr : r ∈ e.enabledRules) : r.severity ≠ .off := by
  have henabled : r.isEnabled = true := (List.mem_filter.mp hr).2
  exact bne_iff_ne.mp henabled

theorem lint_tallied (he : e.Sound) (h : e.lint o = .ok result) : result.Tallied e := by
  have hon : ∀ v ∈ result.violations, v.severity ≠ .off := by
    intro v hv
    rcases exists_rule_of_violation h hv with ⟨r, hr, _, hseverity⟩
    rw [hseverity]
    exact severity_of_enabled hr
  have hcounts : result.errorCount = result.violations.countP (·.severity = .error) ∧
      result.warningCount = result.violations.countP (·.severity = .warn) := by
    rcases lint_eq_ok_iff_checks.mp h with ⟨found, _, rfl⟩
    rcases FileResult.counts_addAll { path := o.path, problems := o.problems } found.flatten with ⟨herrors, hwarnings⟩
    rw [FileResult.violations_addAll, herrors, hwarnings]
    simp
  constructor
  . exact hcounts.1
  . exact hcounts.2
  . rw [hcounts.1, hcounts.2]
    exact countP_severity hon
  . exact hon
  . intro v hv
    rcases exists_rule_of_violation h hv with ⟨r, hr, hid, hseverity⟩
    refine ⟨r, hr, ?_, hid, hseverity⟩
    rw [hid]
    exact he.get?_enabled hr

theorem lintFile_tallied (he : e.Sound) {path : String} (h : e.lintFile w path = .ok result)
    : result.Tallied e := by
  cases hfront : w.registry.frontEndOf? path with
  | none =>
    unfold lintFile at h
    rw [hfront] at h
    cases h
    constructor <;> simp
  | some frontEnd =>
    rcases (lintFile_eq_ok_iff hfront).mp h with ⟨o, _, hlint⟩
    exact lint_tallied he hlint

end Engine

/-! ### Reports -/

namespace Report

/--
A report whose numbers are those of the violations in the given results.
-/
structure Tallies (report : Report) (results : List FileResult) : Prop where
  violations : report.allViolations = (results.map (·.violations)).flatten
  total : report.totalViolations = report.allViolations.length
  sum : report.totalViolations = report.totalErrors + report.totalWarnings
  errors : report.hasErrors = true ↔ ∃ v ∈ report.allViolations, v.severity = .error
  issues : report.filesWithIssues = results.countP fun result => result.violations ≠ [] ∨ result.problems ≠ []

theorem foldl_add (report : Report) (results : List FileResult)
    : results.foldl add report = ⟨report.results ++ results⟩ := by
  induction results generalizing report with
  | nil => rw [List.foldl_nil, List.append_nil]
  | cons result rest ih =>
    rw [List.foldl_cons, ih, add, List.append_assoc, List.singleton_append]

variable {results : List FileResult}

theorem sum_counts {count : FileResult → Nat} {p : Violation → Bool}
    (h : ∀ result ∈ results, count result = result.violations.countP p)
    : (results.map count).foldr (· + ·) 0 = (Report.mk results).allViolations.countP p := by
  unfold allViolations
  rw [List.countP_flatMap]
  apply congrArg List.sum
  apply List.map_congr_left
  intro result hresult
  exact h result hresult

variable (h : ∀ result ∈ results, ∃ e, result.Tallied e)

include h

theorem totalErrors_eq
    : (Report.mk results).totalErrors = (Report.mk results).allViolations.countP (·.severity = .error) := by
  apply sum_counts
  intro result hresult
  rcases h result hresult with ⟨e, htallied⟩
  exact htallied.errors

theorem totalWarnings_eq
    : (Report.mk results).totalWarnings = (Report.mk results).allViolations.countP (·.severity = .warn) := by
  apply sum_counts
  intro result hresult
  rcases h result hresult with ⟨e, htallied⟩
  exact htallied.warnings

theorem severity_of_mem_allViolations : ∀ v ∈ (Report.mk results).allViolations, v.severity ≠ .off := by
  intro v hv
  rcases List.mem_flatMap.mp hv with ⟨result, hresult, hv⟩
  rcases h result hresult with ⟨e, htallied⟩
  exact htallied.on v hv

theorem tallies_foldl_add : (results.foldl add {}).Tallies results := by
  have hreport : results.foldl add {} = ⟨results⟩ := foldl_add {} results
  have htotal : (Report.mk results).totalViolations = (Report.mk results).allViolations.length := by
    unfold totalViolations allViolations
    rw [List.length_flatMap]
    rfl
  rw [hreport]
  constructor
  . exact List.flatMap_def
  . exact htotal
  . rw [htotal, totalErrors_eq h, totalWarnings_eq h]
    exact (countP_severity (severity_of_mem_allViolations h)).symm
  . unfold hasErrors
    rw [totalErrors_eq h, decide_eq_true_iff, gt_iff_lt, List.countP_pos_iff]
    simp
  . unfold filesWithIssues
    rw [← List.countP_eq_length_filter]
    apply List.countP_congr
    intro result _
    simp [FileResult.hasIssues]

end Report

/-! ### Every engine and every report -/

namespace Engine

/--
The result is what an engine, in some state that it can come to, says about an outline or a file.
-/
inductive Given : FileResult → Prop where
  | lint {operations : List Operation} {o : Outline} {result : FileResult}
      (h : (run operations).lint o = .ok result) : Given result
  | lintFile {operations : List Operation} {w : Workspace} {path : String} {result : FileResult}
      (h : (run operations).lintFile w path = .ok result) : Given result

theorem Given.tallied {result : FileResult} (h : Given result) : ∃ e, result.Tallied e := by
  cases h with
  | lint h => exact ⟨_, lint_tallied (run_sound _) h⟩
  | lintFile h => exact ⟨_, lintFile_tallied (run_sound _) h⟩

theorem given_of_lintFiles {operations : List Operation} {w : Workspace} {paths : List String} {report : Report}
    (h : (run operations).lintFiles w paths = .ok report) : ∀ result ∈ report.results, Given result := by
  intro result hresult
  rcases exists_of_mem_mapM (lintFiles_eq_ok_iff.mp h).2 hresult with ⟨path, _, hlint⟩
  exact .lintFile hlint

theorem tallies_of_lintFiles {operations : List Operation} {w : Workspace} {paths : List String} {report : Report}
    (h : (run operations).lintFiles w paths = .ok report) : report.Tallies report.results := by
  have htallies := Report.tallies_foldl_add fun result hresult => (given_of_lintFiles h result hresult).tallied
  rw [Report.foldl_add] at htallies
  exact htallies

theorem lintFiles_of_lintFolder {e : Engine} {w : Workspace} {folder : String} {recursive : Bool}
    {endings : Option Value} {report : Report} (h : e.lintFolder w folder recursive endings = .ok report)
    : ∃ paths, e.lintFiles w paths = .ok report := by
  unfold lintFolder at h
  split at h
  all_goals
    rcases bind_eq_ok_iff.mp h with ⟨vs, _, h⟩
    rcases bind_eq_ok_iff.mp h with ⟨found, _, h⟩
    exact ⟨found.flatten, h⟩

/--
Whatever was done with an engine, the numbers in its results are those of the violations in them, and every violation
comes from a rule that runs. The numbers in a report are those of the results that it was made of, in whatever order
they came, and so are the numbers in the reports that engines make of files and folders.
-/
theorem run_tallied
    : (∀ operations o result, (run operations).lint o = .ok result → result.Tallied (run operations)) ∧
      (∀ results : List FileResult, (∀ result ∈ results, Given result) →
        (results.foldl Report.add {}).Tallies results) ∧
      (∀ operations w paths report, (run operations).lintFiles w paths = .ok report →
        report.Tallies report.results) ∧
      ∀ operations w folder recursive endings report,
        (run operations).lintFolder w folder recursive endings = .ok report → report.Tallies report.results := by
  refine ⟨?_, ?_, ?_, ?_⟩
  . intro operations o result hlint
    exact lint_tallied (run_sound operations) hlint
  . intro results hgiven
    exact Report.tallies_foldl_add fun result hresult => (hgiven result hresult).tallied
  . intro operations w paths report hlint
    exact tallies_of_lintFiles hlint
  . intro operations w folder recursive endings report hlint
    rcases lintFiles_of_lintFolder hlint with ⟨paths, hlint⟩
    exact tallies_of_lintFiles hlint

/--
A rule that is off from the start and would object to every file.
-/
def sleeper : RuleSpec where
  id := "custom/sleeper"
  defaultSeverity := .off
  inspection := .whole fun _ _ => .ok [{ message := "file", firstLine := 1, lastLine := 1 }]

-- The preset does not name the last rule, which becomes active and stays off.
def tallyOperations : List Operation :=
  [.registerBuiltin, .register sleeper, .usePreset (.text "recommended"),
    .configureRule maxComplexity.id (some .error) .null]

/--
The outline of a file that could not be read.
-/
def tornOutline : Outline :=
  .failed "torn.py" "python" "语法错误"

theorem run_tallied_boxOutline
    : sleeper.id ∈ (run tallyOperations).active.names ∧
      ∃ box torn report, (run tallyOperations).lint boxOutline = .ok box ∧
        (run tallyOperations).lint tornOutline = .ok torn ∧
        box.Tallied (run tallyOperations) ∧ box.errorCount = 1 ∧ box.warningCount = 4 ∧
        torn.Tallied (run tallyOperations) ∧
        report = [torn, box, torn].foldl Report.add {} ∧ report.Tallies [torn, box, torn] ∧
        report.totalViolations = 5 ∧ report.filesWithIssues = 3 := by
  have hbox : ∃ box, (run tallyOperations).lint boxOutline = .ok box ∧ box.errorCount = 1 ∧ box.warningCount = 4 ∧
      box.violations.length = 5 := ⟨_, rfl, rfl, rfl, rfl⟩
  have htorn : ∃ torn, (run tallyOperations).lint tornOutline = .ok torn ∧ torn.violations = [] ∧
      torn.problems = ["语法错误"] := ⟨_, rfl, rfl, rfl⟩
  rcases hbox with ⟨box, hbox, herrors, hwarnings, hlength⟩
  rcases htorn with ⟨torn, htorn, hnone, hproblems⟩
  have hgiven : ∀ result ∈ [torn, box, torn], Given result := by
    simp only [List.forall_mem_cons]
    exact ⟨.lint htorn, .lint hbox, .lint htorn, List.forall_mem_nil _⟩
  have htallies := run_tallied.2.1 _ hgiven
  refine ⟨by decide, box, torn, _, hbox, htorn, run_tallied.1 _ _ _ hbox, herrors, hwarnings,
    run_tallied.1 _ _ _ htorn, rfl, htallies, ?_, ?_⟩
  . rw [htallies.total, htallies.violations]
    simp [hnone, hlength]
  . have hissue : box.violations ≠ [] := by
      rw [← List.length_pos_iff, hlength]
      decide
    rw [htallies.issues]
    simp [hissue, hproblems]

end Engine

end CodeAudit.Lint
