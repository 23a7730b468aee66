import CodeAudit.Assist.Analyzer
import CodeAudit.Proofs.Verdict

/-!
This module contains what a question to a language model says about violations. The analyzer applies a
preset to an engine that knows no rules, so it finds none, and agrees with an engine that knows the rules of
the library only where these have nothing to say.
-/

namespace CodeAudit

namespace Lint

/-! ### Outlines without violations -/

namespace Rule

/--
The rule has nothing to say about an outline.
-/
def Silent (r : Rule) (o : Outline) : Prop :=
  (∀ e ∈ o.entries, ¬ r.Objects e) ∧ ¬ r.ObjectsToFile o

theorem marks_eq_nil_iff {r : Rule} {o : Outline} : r.marks o = [] ↔ r.Silent o := by
  unfold marks Silent
  rw [List.append_eq_nil_iff, List.map_eq_nil_iff, List.filter_eq_nil_iff]
  apply and_congr
  . simp only [decide_eq_true_eq]
  . split
    . next h => simp [h]
    . next h => simp [h]

end Rule

namespace Engine

theorem violations_marks {e : Engine} (h : ∀ r ∈ e.enabledRules, r.Regular) (o : Outline)
    : ∃ vs, e.violations o = .ok vs ∧ vs.map Violation.mark = e.enabledRules.flatMap (·.marks o) := by
  have hall : (e.enabledRules.filter fun r => r.spec.supports o.language) = e.enabledRules := by
    rw [List.filter_eq_self]
    intro r hr
    exact supports_of_regular (h r hr) o.language
  rcases mapM_check_marks h o with ⟨found, hfound, hmarks⟩
  refine ⟨found.flatten, ?_, hmarks⟩
  unfold violations
  rw [hall]
  dsimp only
  rw [hfound]
  rfl

/--
The result of a lint has nothing but the problems of the outline exactly if all rules are silent.
-/
theorem lint_silent_iff {e : Engine} (h : ∀ r ∈ e.enabledRules, r.Regular) (o : Outline)
    : ∃ result, e.lint o = .ok result ∧
        (result = { path := o.path, problems := o.problems } ↔ ∀ r ∈ e.enabledRules, r.Silent o) := by
  rcases violations_marks h o with ⟨vs, hvs, hmarks⟩
  have hsilent : vs = [] ↔ ∀ r ∈ e.enabledRules, r.Silent o := by
    rw [← List.map_eq_nil_iff, hmarks, List.flatMap_eq_nil_iff]
    simp only [Rule.marks_eq_nil_iff]
  refine ⟨FileResult.addAll { path := o.path, problems := o.problems } vs, ?_, ?_⟩
  . unfold lint
    rw [hvs]
    rfl
  . rw [← hsilent]
    constructor
    . intro hresult
      have hviolations := FileResult.violations_addAll { path := o.path, problems := o.problems } vs
      rw [hresult] at hviolations
      simpa using hviolations.symm
    . intro hnil
      rw [hnil]
      rfl

theorem lint_of_inactive {e : Engine} (h : e.active = []) (o : Outline)
    : e.lint o = .ok { path := o.path, problems := o.problems } := by
  unfold lint violations enabledRules
  rw [h]
  rfl

/--
The engine that knows the rules of the library and has the recommended settings for them.
-/
def recommended : Engine :=
  ((registerBuiltin {}).usePreset (.text "recommended")).1

theorem recommended_enabledRules : recommended.enabledRules = builtinRules.map RuleSpec.standard := rfl

theorem recommended_regular {r : Rule} (h : r ∈ recommended.enabledRules) : r.Regular := by
  rw [recommended_enabledRules] at h
  rcases List.mem_map.mp h with ⟨spec, hspec, rfl⟩
  exact Rule.standard_regular hspec

end Engine

end Lint

namespace Assist

/-! ### Questions -/

theorem complexEntries_eq (threshold : Int) (es : List Entry)
    : complexEntries (.int threshold) es =
        .ok (es.filter fun e => Lint.functionKinds.contains e.kind && threshold < e.complexity) := by
  induction es with
  | nil => rfl
  | cons e rest ih =>
    unfold complexEntries
    rw [List.filter_cons, ih]
    split
    . next hkind =>
      rw [hkind, Bool.true_and]
      dsimp only [Lint.exceeds, bind, Except.bind, pure, Except.pure, gt_iff_lt]
    . next hkind =>
      rw [if_neg]
      rw [Bool.and_eq_true]
      exact fun h => hkind h.1

namespace Analyzer

theorem make_lint (client : Client) (tools : Tools) (o : Outline)
    : (make client tools).engine.lint o = .ok { path := o.path, problems := o.problems } :=
  Lint.Engine.lint_of_inactive rfl o

theorem make_material (client : Client) (tools : Tools) (code : List Char) (path language : String)
    : ∃ m, (make client tools).material code path language = .ok m ∧ m.lintText = .text "无违规" := by
  unfold material
  dsimp only
  rw [make_lint]
  unfold complexityText highComplexity
  rw [complexEntries_eq]
  exact ⟨_, rfl, rfl⟩

/--
Every question of a new analyzer says that there are no violations. An engine that knows the rules of the
library and has the same settings comes to the same result exactly if none of its rules has anything to say
about the code.
-/
theorem make_lint_eq_recommended_iff (client : Client) (tools : Tools) (kind : AnalysisKind) (code : List Char)
    (path : String) (language : Option String)
    : let a := make client tools
      let name := language.getD (a.detectLanguage path)
      let o := a.outline code path name
      (∃ own expected, a.engine.lint o = .ok own ∧ Lint.Engine.recommended.lint o = .ok expected ∧
        own.violations = [] ∧
        (own = expected ↔ ∀ r ∈ Lint.Engine.recommended.enabledRules, r.Silent o)) ∧
      ∃ m, a.material code path name = .ok m ∧ m.lintText = .text "无违规" ∧
        a.prompt kind code path language = a.catalog.build kind m := by
  intro a name o
  constructor
  . rcases Lint.Engine.lint_silent_iff (fun r hr => Lint.Engine.recommended_regular hr) o with
      ⟨expected, hexpected, hsilent⟩
    refine ⟨_, expected, make_lint client tools o, hexpected, rfl, ?_⟩
    rw [← hsilent]
    exact eq_comm
  . rcases make_material client tools code path name with ⟨m, hm, hlint⟩
    refine ⟨m, hm, hlint, ?_⟩
    have hname : a.material code path (language.getD (a.detectLanguage path)) = .ok m := hm
    unfold prompt
    dsimp only
    rw [hname]

-- A function whose name is not of the recommended style.
def camelCode : List Char := "def BadName(a):\n    return a\n".toList

theorem make_lint_misses_camelCode
    : let a := make (.make none .null) .bare
      let o := a.outline camelCode "m.py" "python"
      (a.engine.lint o).map (fun result => result.violations.map Lint.Violation.mark) = .ok [] ∧
        (Lint.Engine.recommended.lint o).map (fun result => result.violations.map Lint.Violation.mark) =
          .ok [⟨"naming/function-naming", .warn, "m.py", 1, 2, some "BadName", some "function"⟩] := by
  decide +kernel

end Analyzer

end Assist

end CodeAudit
