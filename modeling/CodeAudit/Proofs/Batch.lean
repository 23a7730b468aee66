import CodeAudit.Proofs.Verdict

/-!
This module contains what becomes of a list of paths: when the lint of files comes to its end, and that it
has one result for each path that is not ignored then, also where a file cannot be read.
-/

namespace CodeAudit

/--
Whether the value holds others.
-/
def Value.isCollection : Value → Bool
  | .list _ => true
  | .object _ => true
  | _ => false

namespace Lint

/-! ### Rules with a bound -/

namespace Rule

/--
The rules that come with the library, with a bound that is an integer. Nothing is said about styles.
-/
structure Bounded (r : Rule) : Prop where
  builtin : r.spec ∈ builtinRules
  bound : ∀ v, r.option? "max" = some v → ∃ m, v.integer? = some m

/--
The rule has a list or an object for a style, and the outline an entry whose name it looks at.
-/
def Stumbles (r : Rule) (o : Outline) : Prop :=
  (∃ v, r.option? "style" = some v ∧ v.isCollection = true) ∧
    ∃ e ∈ o.entries,
      (r.spec.id = "naming/function-naming" ∧ e.IsFunction) ∨
        (r.spec.id = "naming/class-naming" ∧ e.kind = .class_)

/--
The rule limits files with a bound that is less than what there is in an empty one.
-/
def Eager (r : Rule) : Prop :=
  (r.spec.id = "structure/max-file-lines" ∨ r.spec.id = "structure/max-classes-per-file" ∨
    r.spec.id = "structure/max-functions-per-file") ∧ r.Exceeded 0

variable {r : Rule}

theorem objectsToFile_empty_iff {o : Outline} (hentries : o.entries = []) (htotal : o.lines.total = 0)
    : r.ObjectsToFile o ↔ r.Eager := by
  unfold ObjectsToFile Eager
  rw [hentries, htotal]
  simp only [List.filter_nil, List.length_nil, Int.natCast_zero]
  tauto

theorem not_collection_of_style {v : Value} {s : Style} (h : v.style? = some s) : v.isCollection = false := by
  cases v with
  | text name => rfl
  | _ => cases h

theorem styleOption_unknown {default : String} {v : Value}
    (hdefault : r.spec.defaultOptions.get? "style" = some (.text default))
    (hv : r.option? "style" = some v) (hstyle : v.style? = none)
    : (v.isCollection = true ∧ ∃ f, styleOption r.options default = .error f) ∨
      (v.isCollection = false ∧ styleOption r.options default = .ok none) := by
  have hoption : (r.options.get? "style").getD (.text default) = v := by
    unfold option? at hv
    rw [hdefault] at hv
    exact Option.some.inj hv
  unfold styleOption
  rw [hoption]
  cases v with
  | text name =>
    have hnamed : Style.named.get? name = none := hstyle
    refine Or.inr ⟨rfl, ?_⟩
    simp [Value.lookupText?, orFault, hnamed, bind, Except.bind, pure, Except.pure]
  | list vs => exact Or.inl ⟨rfl, _, rfl⟩
  | object fields => exact Or.inl ⟨rfl, _, rfl⟩
  | _ => exact Or.inr ⟨rfl, rfl⟩

theorem exists_check_entries_iff {kinds : List EntryKind}
    {inspect : Options → Entry → Except Fault (List Finding)}
    (hinspection : r.spec.inspection = .entries kinds inspect) (hlanguages : r.spec.languages = [])
    (o : Outline)
    : (∃ vs, r.check o = .ok vs) ↔
        ∀ e ∈ o.entries, targets kinds e = true → ∃ fs, inspect r.options e = .ok fs := by
  have hsupports : r.spec.supports o.language = true := by
    unfold RuleSpec.supports
    rw [hlanguages]
    rfl
  have hfindings : r.findings o = (do
      let found ← (o.entries.filter (targets kinds)).mapM (inspect r.options)
      return found.flatten) := by
    unfold findings
    rw [hinspection]
    exact if_pos hsupports
  have hchecked : (∃ vs, r.check o = .ok vs) ↔
      ∃ found, (o.entries.filter (targets kinds)).mapM (inspect r.options) = .ok found := by
    unfold check
    rw [hfindings]
    cases (o.entries.filter (targets kinds)).mapM (inspect r.options) with
    | error f => simp [bind, Except.bind]
    | ok found => simp [bind, Except.bind, pure, Except.pure]
  rw [hchecked, exists_mapM_eq_ok_iff]
  simp only [List.mem_filter, and_imp]

-- Both rules about names are of this form; only the names that they exempt differ.
theorem exists_check_naming_iff (exempt : List Char → Bool) {kinds : List EntryKind}
    {default what : String} {v : Value}
    (hinspection : r.spec.inspection = .entries kinds fun options e => do
      match ← styleOption options default with
      | none => return []
      | some (styleName, style) =>
        let name := withoutLineEnd e.name.toList
        return if exempt name || style.accepts name then [] else [nameFinding e what styleName style])
    (hlanguages : r.spec.languages = [])
    (hdefault : r.spec.defaultOptions.get? "style" = some (.text default))
    (hv : r.option? "style" = some v) (hstyle : v.style? = none) (o : Outline)
    : (∃ vs, r.check o = .ok vs) ↔
        ¬ (v.isCollection = true ∧ ∃ e ∈ o.entries, targets kinds e = true) := by
  rw [exists_check_entries_iff hinspection hlanguages]
  rcases styleOption_unknown hdefault hv hstyle with ⟨hcollection, f, hoption⟩ | ⟨hcollection, hoption⟩
  . rw [hoption, hcollection]
    simp [bind, Except.bind]
  . rw [hoption, hcollection]
    simp [bind, Except.bind, pure, Except.pure]

theorem stumbles_iff {v : Value} (hv : r.option? "style" = some v) (o : Outline)
    : r.Stumbles o ↔
        v.isCollection = true ∧ ∃ e ∈ o.entries,
          (r.spec.id = "naming/function-naming" ∧ e.IsFunction) ∨
            (r.spec.id = "naming/class-naming" ∧ e.kind = .class_) := by
  unfold Stumbles
  rw [hv]
  simp

theorem spec_of_style (hspec : r.spec ∈ builtinRules) {v : Value} (hv : r.option? "style" = some v)
    : r.spec = functionNaming ∨ r.spec = classNaming := by
  rcases r with ⟨spec, severity, options⟩
  rcases mem_builtinRules.mp hspec with rfl | rfl | rfl | rfl | rfl | rfl | rfl | rfl
  . cases hv
  . cases hv
  . cases hv
  . exact Or.inl rfl
  . exact Or.inr rfl
  . cases hv
  . cases hv
  . cases hv

/--
The check of a rule with a bound comes to its end exactly if the rule does not stumble.
-/
theorem exists_check_iff (hr : r.Bounded) (o : Outline) : (∃ vs, r.check o = .ok vs) ↔ ¬ r.Stumbles o := by
  by_cases hstyle : ∀ v, r.option? "style" = some v → ∃ s, v.style? = some s
  . have hmarks := check_marks ⟨hr.builtin, hr.bound, hstyle⟩ o
    refine ⟨fun _ => ?_, fun _ => hmarks.imp fun _ h => h.1⟩
    rintro ⟨⟨v, hv, hcollection⟩, _⟩
    rcases hstyle v hv with ⟨s, hs⟩
    rw [not_collection_of_style hs] at hcollection
    cases hcollection
  . push Not at hstyle
    rcases hstyle with ⟨v, hv, hnone⟩
    have hunknown : v.style? = none := Option.eq_none_iff_forall_ne_some.mpr hnone
    rw [stumbles_iff hv]
    rcases r with ⟨spec, severity, options⟩
    rcases spec_of_style hr.builtin hv with rfl | rfl
    . have hid : functionNaming.id = "naming/function-naming" := rfl
      rw [exists_check_naming_iff isReserved rfl rfl rfl hv hunknown]
      simp [hid, targets_functionKinds]
    . have hid : classNaming.id = "naming/class-naming" := rfl
      rw [exists_check_naming_iff (fun _ => false) rfl rfl rfl hv hunknown]
      simp [hid, targets]

/--
A file with nothing in it is objected to exactly by the rules that a bound makes eager.
-/
theorem check_of_empty (hr : r.Bounded) {o : Outline} {vs : List Violation} (hcheck : r.check o = .ok vs)
    (hentries : o.entries = []) (htotal : o.lines.total = 0) : vs = [] ↔ ¬ r.Eager := by
  rw [← objectsToFile_empty_iff hentries htotal]
  by_cases hstyle : ∀ v, r.option? "style" = some v → ∃ s, v.style? = some s
  . rcases check_marks ⟨hr.builtin, hr.bound, hstyle⟩ o with ⟨vs', hvs', hmarks⟩
    cases hcheck.symm.trans hvs'
    rw [← List.map_eq_nil_iff, hmarks]
    unfold marks
    rw [hentries]
    simp
  . push Not at hstyle
    rcases hstyle with ⟨v, hv, _⟩
    -- Only the rules about names have a style, and they look at nothing but entries.
    have hnothing : r.findings o = .ok [] ∧ ¬ r.ObjectsToFile o := by
      unfold findings ObjectsToFile
      rcases spec_of_style hr.builtin hv with hspec | hspec
      . rw [hspec, hentries]
        exact ⟨rfl, by simp [functionNaming]⟩
      . rw [hspec, hentries]
        exact ⟨rfl, by simp [classNaming]⟩
    cases hcheck.symm.trans (check_eq_ok hnothing.1)
    simp [hnothing.2]

end Rule

/-! ### One file -/

theorem FileResult.addAll_keeps (result : FileResult) (vs : List Violation)
    : (result.addAll vs).path = result.path ∧ (result.addAll vs).problems = result.problems := by
  unfold addAll
  induction vs generalizing result with
  | nil => exact ⟨rfl, rfl⟩
  | cons v rest ih =>
    rw [List.foldl_cons]
    exact ih (result.add v)

namespace Workspace

/--
What there is to say about a path before any rule looks at it.
-/
def problemsAt (w : Workspace) (path : String) : List String :=
  match w.registry.frontEndOf? path with
  | none => ["没有可用的解析器: " ++ path]
  | some .python =>
    match w.files.readText path with
    | .error e => [Syntax.unreadableMessage path e]
    | .ok code => if (Syntax.parse? code).isSome then [] else ["语法错误"]
  | some (.script language) =>
    match w.tools.scriptParser? language, w.files.readText path with
    | none, _ => []
    | some _, .error e => ["File reading error: " ++ e.message]
    | some parse, .ok code =>
      if (parse code).root.isNone then
        [language.title ++ " parsing error: " ++ "'NoneType' object has no attribute 'has_error'"]
      else if (parse code).hasError then [language.title ++ " syntax error detected"]
      else []
  | some (.other name) =>
    match (w.tools.reader name).outlineOfFile w.files path with
    | .error _ => []
    | .ok o => o.problems

/--
A path cannot be parsed: no front end is known for it, or that of this library cannot read the file, or finds no
module or no tree in it.
-/
inductive Unparsed (w : Workspace) (path : String) : Prop where
  | unknown (hfront : w.registry.frontEndOf? path = none)
  | unread (e : Files.ReadFault)
      (hfront : w.registry.frontEndOf? path = some .python ∨
        ∃ language, w.registry.frontEndOf? path = some (.script language))
      (htext : w.files.readText path = .error e)
  | notModule (code : List Char) (hfront : w.registry.frontEndOf? path = some .python)
      (htext : w.files.readText path = .ok code) (hparse : Syntax.parse? code = none)
  | noTree (language : ScriptLanguage) (parse : Script.Parser) (code : List Char)
      (hfront : w.registry.frontEndOf? path = some (.script language))
      (hparser : w.tools.scriptParser? language = some parse) (htext : w.files.readText path = .ok code)
      (hroot : (parse code).root = none)

/--
A front end breaks down at a path: it is for scripts and there is no parser, or it is from elsewhere and is not
ready or has no outline.
-/
inductive Breaks (w : Workspace) (path : String) : Prop where
  | noParser {language : ScriptLanguage} (hfront : w.registry.frontEndOf? path = some (.script language))
      (hparser : w.tools.scriptParser? language = none)
  | notReady {name : String} (hfront : w.registry.frontEndOf? path = some (.other name)) (f : Fault)
      (hready : (w.tools.reader name).ready = .error f)
  | noOutline {name : String} (hfront : w.registry.frontEndOf? path = some (.other name)) (f : Fault)
      (houtline : (w.tools.reader name).outlineOfFile w.files path = .error f)

/--
The outline that the front end for a path makes of the file there.
-/
inductive Outlines (w : Workspace) (path : String) : Outline → Prop where
  | python (hfront : w.registry.frontEndOf? path = some .python)
    : Outlines w path (Syntax.outlineOfFile w.tools.addresses w.files path)
  | script {language : ScriptLanguage} (hfront : w.registry.frontEndOf? path = some (.script language))
      {parse : Script.Parser} (hparser : w.tools.scriptParser? language = some parse)
    : Outlines w path (Script.outlineOfFile language w.files path parse)
  | other {name : String} (hfront : w.registry.frontEndOf? path = some (.other name)) {o : Outline}
      (hready : (w.tools.reader name).ready = .ok ())
      (houtline : (w.tools.reader name).outlineOfFile w.files path = .ok o) : Outlines w path o

variable {w : Workspace} {path : String} {frontEnd : FrontEnd} {o : Outline}

theorem outlines_iff (hfront : w.registry.frontEndOf? path = some frontEnd)
    : w.Outlines path o ↔
        (frontEnd.reader w.tools).ready = .ok () ∧ (frontEnd.reader w.tools).outlineOfFile w.files path = .ok o := by
  constructor
  . intro h
    cases h with
    | python hpython =>
      cases hpython.symm.trans hfront
      exact ⟨rfl, rfl⟩
    | script hscript hparser =>
      cases hscript.symm.trans hfront
      exact ⟨Script.withParser_eq_ok_iff.mpr ⟨_, hparser, rfl⟩, Script.withParser_eq_ok_iff.mpr ⟨_, hparser, rfl⟩⟩
    | other hother hready houtline =>
      cases hother.symm.trans hfront
      exact ⟨hready, houtline⟩
  . rintro ⟨hready, houtline⟩
    cases frontEnd with
    | python =>
      cases houtline
      exact .python hfront
    | script language =>
      rcases Script.withParser_eq_ok_iff.mp houtline with ⟨parse, hparser, rfl⟩
      exact .script hfront hparser
    | other name => exact .other hfront hready houtline

theorem exists_outlines_iff (hfront : w.registry.frontEndOf? path = some frontEnd)
    : (∃ o, w.Outlines path o) ↔ ¬ w.Breaks path := by
  constructor
  . rintro ⟨o, houtlines⟩ hbreaks
    cases hbreaks with
    | noParser hscript hparser =>
      rcases Script.withParser_eq_ok_iff.mp ((outlines_iff hscript).mp houtlines).1 with ⟨parse, hparser', _⟩
      cases hparser.symm.trans hparser'
    | notReady hother f hready => cases hready.symm.trans ((outlines_iff hother).mp houtlines).1
    | noOutline hother f houtline => cases houtline.symm.trans ((outlines_iff hother).mp houtlines).2
  . intro hgoes
    cases frontEnd with
    | python => exact ⟨_, .python hfront⟩
    | script language =>
      cases hparser : w.tools.scriptParser? language with
      | none => exact absurd (.noParser hfront hparser) hgoes
      | some parse => exact ⟨_, .script hfront hparser⟩
    | other name =>
      cases hready : (w.tools.reader name).ready with
      | error f => exact absurd (.notReady hfront f hready) hgoes
      | ok _ =>
        cases houtline : (w.tools.reader name).outlineOfFile w.files path with
        | error f => exact absurd (.noOutline hfront f houtline) hgoes
        | ok o => exact ⟨o, .other hfront hready houtline⟩

theorem Breaks.exists_frontEnd (h : w.Breaks path) : ∃ frontEnd, w.registry.frontEndOf? path = some frontEnd := by
  cases h with
  | noParser hfront => exact ⟨_, hfront⟩
  | notReady hfront => exact ⟨_, hfront⟩
  | noOutline hfront => exact ⟨_, hfront⟩

theorem Outlines.exists_frontEnd (h : w.Outlines path o) : ∃ frontEnd, w.registry.frontEndOf? path = some frontEnd := by
  cases h with
  | python hfront => exact ⟨_, hfront⟩
  | script hfront => exact ⟨_, hfront⟩
  | other hfront => exact ⟨_, hfront⟩

theorem Outlines.unique {o' : Outline} (h : w.Outlines path o) (h' : w.Outlines path o') : o = o' := by
  rcases h.exists_frontEnd with ⟨frontEnd, hfront⟩
  exact Except.ok.inj (((outlines_iff hfront).mp h).2.symm.trans ((outlines_iff hfront).mp h').2)

theorem Outlines.path_eq (h : w.Outlines path o) : o.path = path := by
  cases h with
  | python hfront => exact Syntax.path_outlineOfFile _ _ _
  | script hfront hparser => exact Script.path_outlineOfFile _ _ _ _
  | other hfront hready houtline => exact Reader.path_eq _ houtline

theorem Outlines.problems_eq (h : w.Outlines path o) : o.problems = w.problemsAt path := by
  unfold problemsAt
  cases h with
  | python hfront =>
    simp only [hfront, Syntax.outlineOfFile]
    cases w.files.readText path with
    | error e => rfl
    | ok code =>
      simp only [Syntax.outline]
      cases Syntax.parse? code with
      | none => rfl
      | some body => rfl
  | @script language hfront parse hparser =>
    simp only [hfront, hparser, Script.outlineOfFile]
    cases w.files.readText path with
    | error e => rfl
    | ok code =>
      simp only [Script.outline]
      cases (parse code).root with
      | none => rfl
      | some root => rfl
  | other hfront hready houtline => simp only [hfront, houtline]

theorem Unparsed.empty_outline (h : w.Unparsed path) (houtlines : w.Outlines path o)
    : o.entries = [] ∧ o.lines.total = 0 := by
  cases h with
  | unknown hnone =>
    rcases houtlines.exists_frontEnd with ⟨frontEnd, hfront⟩
    cases hnone.symm.trans hfront
  | unread e hreader htext =>
    rcases hreader with hpython | ⟨language, hscript⟩
    . rw [houtlines.unique (.python hpython), Syntax.outlineOfFile, htext]
      exact ⟨rfl, rfl⟩
    . cases houtlines with
      | python hfront => cases hscript.symm.trans hfront
      | script hfront hparser =>
        rw [Script.outlineOfFile, htext]
        exact ⟨rfl, rfl⟩
      | other hfront => cases hscript.symm.trans hfront
  | notModule code hpython htext hparse =>
    rw [houtlines.unique (.python hpython), Syntax.outlineOfFile, htext]
    simp only [Syntax.outline, hparse]
    exact ⟨rfl, rfl⟩
  | noTree language parse code hscript hparser htext hroot =>
    rw [houtlines.unique (.script hscript hparser), Script.outlineOfFile, htext]
    simp only [Script.outline, hroot]
    exact ⟨rfl, rfl⟩

end Workspace

namespace Engine

variable {e : Engine} {w : Workspace} {o : Outline} {path : String} {result : FileResult}

theorem lint_eq_ok_iff_checks
    : e.lint o = .ok result ↔
        ∃ found, (e.enabledRules.filter fun r => r.spec.supports o.language).mapM (·.check o) = .ok found ∧
          FileResult.addAll { path := o.path, problems := o.problems } found.flatten = result := by
  unfold lint violations
  simp only [bind_eq_ok_iff, pure, Except.pure, Except.ok.injEq]
  constructor
  . rintro ⟨_, ⟨found, hfound, rfl⟩, hresult⟩
    exact ⟨found, hfound, hresult⟩
  . rintro ⟨found, hfound, hresult⟩
    exact ⟨_, ⟨found, hfound, rfl⟩, hresult⟩

theorem lint_eq_ok_iff (h : ∀ r ∈ e.enabledRules, r.Bounded)
    : e.lint o = .ok result ↔
        ∃ found, e.enabledRules.mapM (·.check o) = .ok found ∧
          FileResult.addAll { path := o.path, problems := o.problems } found.flatten = result := by
  have hall : (e.enabledRules.filter fun r => r.spec.supports o.language) = e.enabledRules := by
    rw [List.filter_eq_self]
    intro r hr
    exact supports_of_builtin (h r hr).builtin o.language
  rw [lint_eq_ok_iff_checks, hall]

theorem exists_lint_iff (h : ∀ r ∈ e.enabledRules, r.Bounded)
    : (∃ result, e.lint o = .ok result) ↔ ∀ r ∈ e.enabledRules, ¬ r.Stumbles o := by
  have hfound : (∃ result, e.lint o = .ok result) ↔
      ∃ found, e.enabledRules.mapM (·.check o) = .ok found := by
    simp only [lint_eq_ok_iff h]
    exact ⟨fun ⟨_, found, hfound, _⟩ => ⟨found, hfound⟩, fun ⟨found, hfound⟩ => ⟨_, found, hfound, rfl⟩⟩
  rw [hfound, exists_mapM_eq_ok_iff]
  exact forall₂_congr fun r hr => Rule.exists_check_iff (h r hr) o

/--
What a lint reports comes from a rule that runs.
-/
theorem exists_rule_of_violation (h : e.lint o = .ok result) {v : Violation} (hv : v ∈ result.violations)
    : ∃ r ∈ e.enabledRules, v.ruleId = r.spec.id ∧ v.severity = r.severity := by
  rcases lint_eq_ok_iff_checks.mp h with ⟨found, hfound, rfl⟩
  rw [FileResult.violations_addAll, List.nil_append] at hv
  rcases List.mem_flatten.mp hv with ⟨vs, hvs, hv⟩
  rcases exists_of_mem_mapM hfound hvs with ⟨r, hr, hcheck⟩
  exact ⟨r, List.mem_of_mem_filter hr, Rule.reported_of_check hcheck v hv⟩

theorem lint_path (h : e.lint o = .ok result) : result.path = o.path ∧ result.problems = o.problems := by
  rcases lint_eq_ok_iff_checks.mp h with ⟨found, _, rfl⟩
  exact FileResult.addAll_keeps _ found.flatten

theorem checks_of_empty {rules : List Rule} {found : List (List Violation)} (h : ∀ r ∈ rules, r.Bounded)
    (hfound : rules.mapM (·.check o) = .ok found) (hentries : o.entries = []) (htotal : o.lines.total = 0)
    : found.flatten = [] ↔ ∀ r ∈ rules, ¬ r.Eager := by
  have hchecks := mapM_eq_ok_iff.mp hfound
  clear hfound
  induction hchecks with
  | nil => simp
  | @cons r vs rules found hcheck _ ih =>
    have hr := Rule.check_of_empty (h r List.mem_cons_self) hcheck hentries htotal
    have hrules := ih fun r' hr' => h r' (List.mem_cons_of_mem _ hr')
    rw [List.flatten_cons, List.append_eq_nil_iff, List.forall_mem_cons]
    exact and_congr hr hrules

theorem lint_of_empty (h : ∀ r ∈ e.enabledRules, r.Bounded) (hlint : e.lint o = .ok result)
    (hentries : o.entries = []) (htotal : o.lines.total = 0)
    : result.violations = [] ↔ ∀ r ∈ e.enabledRules, ¬ r.Eager := by
  rcases (lint_eq_ok_iff h).mp hlint with ⟨found, hfound, rfl⟩
  rw [FileResult.violations_addAll, List.nil_append]
  exact checks_of_empty h hfound hentries htotal

theorem lintFile_eq_ok_iff {frontEnd : FrontEnd} (hfront : w.registry.frontEndOf? path = some frontEnd)
    : e.lintFile w path = .ok result ↔ ∃ o, w.Outlines path o ∧ e.lint o = .ok result := by
  unfold lintFile
  rw [hfront]
  simp only [bind_eq_ok_iff, Workspace.outlines_iff hfront, and_assoc]
  exact ⟨fun ⟨_, hready, o, houtline, hlint⟩ => ⟨o, hready, houtline, hlint⟩,
    fun ⟨o, hready, houtline, hlint⟩ => ⟨(), hready, o, houtline, hlint⟩⟩

/--
A result is what is to be said about a path: it is under the path, it has the problems there, and where the path
cannot be parsed, nothing is a violation but what rules have against an empty file.
-/
structure Accounts (e : Engine) (w : Workspace) (path : String) (result : FileResult) : Prop where
  names : result.path = path
  problems : result.problems = w.problemsAt path
  violations : w.Unparsed path →
    (result.violations = [] ↔ w.registry.frontEndOf? path = none ∨ ∀ r ∈ e.enabledRules, ¬ r.Eager)

theorem lintFile_path (h : e.lintFile w path = .ok result)
    : result.path = path ∧ result.problems = w.problemsAt path := by
  cases hfront : w.registry.frontEndOf? path with
  | none =>
    unfold lintFile at h
    rw [hfront] at h
    cases h
    unfold Workspace.problemsAt
    rw [hfront]
    exact ⟨rfl, rfl⟩
  | some frontEnd =>
    rcases (lintFile_eq_ok_iff hfront).mp h with ⟨o, houtlines, hlint⟩
    rcases lint_path hlint with ⟨hpath, hproblems⟩
    exact ⟨hpath.trans houtlines.path_eq, hproblems.trans houtlines.problems_eq⟩

theorem lintFile_accounts (h : ∀ r ∈ e.enabledRules, r.Bounded) (hlint : e.lintFile w path = .ok result)
    : e.Accounts w path result := by
  rcases lintFile_path hlint with ⟨hpath, hproblems⟩
  refine ⟨hpath, hproblems, fun hunparsed => ?_⟩
  cases hfront : w.registry.frontEndOf? path with
  | none =>
    unfold lintFile at hlint
    rw [hfront] at hlint
    cases hlint
    simp
  | some frontEnd =>
    rcases (lintFile_eq_ok_iff hfront).mp hlint with ⟨o, houtlines, hlint⟩
    rcases hunparsed.empty_outline houtlines with ⟨hentries, htotal⟩
    rw [lint_of_empty h hlint hentries htotal]
    simp

/-! ### Several files -/

/--
Whether the path is looked at.
-/
def keeps (e : Engine) (path : String) : Bool :=
  match e.ignores path with
  | .ok ignored => !ignored
  | .error _ => false

/--
Why the lint of several files stops at a path: what should be a pattern is none, the front end for the path breaks
down, or a rule has a list or an object for a style and finds something to look at.
-/
inductive StopsAt (e : Engine) (w : Workspace) (path : String) : Prop where
  | noPattern (f : Fault) (hignores : e.ignores path = .error f)
  | noOutline (hkept : e.keeps path = true) (hbreaks : w.Breaks path)
  | noStyle (o : Outline) (r : Rule) (hkept : e.keeps path = true) (houtlines : w.Outlines path o)
      (hr : r ∈ e.enabledRules) (hstumbles : r.Stumbles o)

theorem not_stopsAt_iff (h : ∀ r ∈ e.enabledRules, r.Bounded)
    : ¬ e.StopsAt w path ↔
        (∃ ignored, e.ignores path = .ok ignored) ∧
          (e.keeps path = true → ∃ result, e.lintFile w path = .ok result) := by
  constructor
  . intro hgoes
    constructor
    . cases hignores : e.ignores path with
      | error f => exact absurd (.noPattern f hignores) hgoes
      | ok ignored => exact ⟨ignored, rfl⟩
    . intro hkept
      cases hfront : w.registry.frontEndOf? path with
      | none =>
        unfold lintFile
        rw [hfront]
        exact ⟨_, rfl⟩
      | some frontEnd =>
        rcases (Workspace.exists_outlines_iff hfront).mpr fun hbreaks => hgoes (.noOutline hkept hbreaks)
          with ⟨o, houtlines⟩
        have hlint : ∃ result, e.lint o = .ok result := by
          rw [exists_lint_iff h]
          exact fun r hr hstumbles => hgoes (.noStyle o r hkept houtlines hr hstumbles)
        exact hlint.imp fun result hresult => (lintFile_eq_ok_iff hfront).mpr ⟨o, houtlines, hresult⟩
  . rintro ⟨⟨ignored, hignores⟩, hlint⟩ hstops
    cases hstops with
    | noPattern f hignores' => cases hignores.symm.trans hignores'
    | noOutline hkept hbreaks =>
      rcases hlint hkept with ⟨result, hresult⟩
      rcases hbreaks.exists_frontEnd with ⟨frontEnd, hfront⟩
      rcases (lintFile_eq_ok_iff hfront).mp hresult with ⟨o, houtlines, _⟩
      exact (Workspace.exists_outlines_iff hfront).mp ⟨o, houtlines⟩ hbreaks
    | noStyle o r hkept houtlines hr hstumbles =>
      rcases hlint hkept with ⟨result, hresult⟩
      rcases houtlines.exists_frontEnd with ⟨frontEnd, hfront⟩
      rcases (lintFile_eq_ok_iff hfront).mp hresult with ⟨o', houtlines', hresult⟩
      cases houtlines.unique houtlines'
      exact (exists_lint_iff h).mp ⟨result, hresult⟩ r hr hstumbles

theorem lintFiles_go_eq_ok_iff {paths : List String} {results : List FileResult}
    : lintFiles.go e w paths = .ok results ↔
        (∀ path ∈ paths, ∃ ignored, e.ignores path = .ok ignored) ∧
          (paths.filter e.keeps).mapM (e.lintFile w) = .ok results := by
  induction paths generalizing results with
  | nil => simp [lintFiles.go, pure, Except.pure]
  | cons path rest ih =>
    rw [lintFiles.go, List.forall_mem_cons, List.filter_cons]
    cases hignores : e.ignores path with
    | error f => simp [bind, Except.bind]
    | ok ignored =>
      have hkeeps : e.keeps path = !ignored := by
        unfold keeps
        rw [hignores]
      rw [hkeeps]
      cases ignored with
      | true =>
        change lintFiles.go e w rest = .ok results ↔ _
        rw [ih]
        simp
      | false =>
        change (e.lintFile w path >>= fun result => lintFiles.go e w rest >>= fun results =>
          pure (result :: results)) = .ok results ↔ _
        simp only [Bool.not_false, if_true, List.mapM_cons, bind_eq_ok_iff, ih]
        constructor
        . rintro ⟨result, hresult, results', ⟨hrest, hresults⟩, h⟩
          exact ⟨⟨⟨false, rfl⟩, hrest⟩, result, hresult, results', hresults, h⟩
        . rintro ⟨⟨_, hrest⟩, result, hresult, results', hresults, h⟩
          exact ⟨result, hresult, results', ⟨hrest, hresults⟩, h⟩

theorem lintFiles_eq_ok_iff {paths : List String} {report : Report}
    : e.lintFiles w paths = .ok report ↔
        (∀ path ∈ paths, ∃ ignored, e.ignores path = .ok ignored) ∧
          (paths.filter e.keeps).mapM (e.lintFile w) = .ok report.results := by
  rw [← lintFiles_go_eq_ok_iff]
  unfold lintFiles
  rw [bind_eq_ok_iff]
  constructor
  . rintro ⟨results, hresults, h⟩
    cases h
    exact hresults
  . intro hresults
    exact ⟨report.results, hresults, rfl⟩

/--
The lint of files comes to its end exactly if it stops at none of the paths. It has one result for each
path that is not ignored then, in the order of the paths, and the result accounts for the path, whatever
stands there.
-/
theorem lintFiles_accounts (e : Engine) (w : Workspace) (paths : List String)
    (h : ∀ r ∈ e.enabledRules, r.Bounded)
    : ((∃ report, e.lintFiles w paths = .ok report) ↔ ∀ path ∈ paths, ¬ e.StopsAt w path) ∧
      ∀ report, e.lintFiles w paths = .ok report →
        List.Forall₂ (e.Accounts w) (paths.filter e.keeps) report.results := by
  constructor
  . have hresults : (∃ report, e.lintFiles w paths = .ok report) ↔
        (∀ path ∈ paths, ∃ ignored, e.ignores path = .ok ignored) ∧
          ∃ results, (paths.filter e.keeps).mapM (e.lintFile w) = .ok results := by
      simp only [lintFiles_eq_ok_iff, exists_and_left]
      exact and_congr_right' ⟨fun ⟨report, hreport⟩ => ⟨report.results, hreport⟩,
        fun ⟨results, hresults⟩ => ⟨⟨results⟩, hresults⟩⟩
    rw [hresults, exists_mapM_eq_ok_iff]
    simp only [not_stopsAt_iff h, List.mem_filter, and_imp]
    exact ⟨fun ⟨hignores, hlint⟩ path hpath => ⟨hignores path hpath, hlint path hpath⟩,
      fun hgoes => ⟨fun path hpath => (hgoes path hpath).1, fun path hpath => (hgoes path hpath).2⟩⟩
  . intro report hreport
    have hresults := mapM_eq_ok_iff.mp (lintFiles_eq_ok_iff.mp hreport).2
    exact hresults.imp fun path result hresult => lintFile_accounts h hresult

/--
An engine that ignores some scripts, lets no file have any lines and has a list for a style of names.
-/
def wary : Engine where
  active :=
    [("structure/max-file-lines", ⟨maxFileLines, .error, [("max", .int (-1))]⟩),
      ("naming/function-naming", ⟨functionNaming, .warn, [("style", .list [])]⟩)]
  config := some { ignorePatterns := .list [.text "old*"] }

/--
A folder with one line of Python and what is no Python.
-/
def desk : Workspace where
  files :=
    { entries := [(["a.py"], .file [120, 32, 61, 32, 49, 10]), (["raw.py"], .file [255]), (["pkg.py"], .folder)] }
  tools := .bare

-- A file that can be read, one that cannot be decoded, one that is ignored, none, a folder, and no known language.
def deskPaths : List String :=
  ["a.py", "raw.py", "old.js", "gone.py", "pkg.py", "a.md"]

theorem lintFiles_accounts_desk
    : (∀ r ∈ wary.enabledRules, r.Bounded) ∧ (∀ path ∈ deskPaths, ¬ wary.StopsAt desk path) ∧
      ∃ report, wary.lintFiles desk deskPaths = .ok report ∧
        List.Forall₂ (wary.Accounts desk) ["a.py", "raw.py", "gone.py", "pkg.py", "a.md"] report.results := by
  have hbounded : ∀ r ∈ wary.enabledRules, r.Bounded := by
    intro r hr
    have hrules : wary.enabledRules = [⟨maxFileLines, .error, [("max", .int (-1))]⟩,
      ⟨functionNaming, .warn, [("style", .list [])]⟩] := rfl
    rw [hrules] at hr
    rcases List.mem_pair.mp hr with rfl | rfl
    . refine ⟨mem_builtinRules.mpr (by simp), fun v hv => ?_⟩
      cases hv
      exact ⟨-1, rfl⟩
    . refine ⟨mem_builtinRules.mpr (by simp), fun v hv => ?_⟩
      cases hv
  have hkept : deskPaths.filter wary.keeps = ["a.py", "raw.py", "gone.py", "pkg.py", "a.md"] := by
    decide +kernel
  have hends : (wary.lintFiles desk deskPaths).isOk = true := by
    decide +kernel
  have haccounts := lintFiles_accounts wary desk deskPaths hbounded
  cases hreport : wary.lintFiles desk deskPaths with
  | error f =>
    rw [hreport] at hends
    cases hends
  | ok report =>
    refine ⟨hbounded, haccounts.1.mp ⟨report, hreport⟩, report, rfl, ?_⟩
    rw [← hkept]
    exact haccounts.2 report hreport

/--
A script among the paths takes the results of all others with it.
-/
theorem lintFiles_desk_script
    : (∃ result, builtin.lintFiles desk ["a.py"] = .ok ⟨[result]⟩) ∧
      builtin.lintFiles desk ["a.py", "app.js"] = .error (.noParser .javaScript) := by
  exact ⟨⟨_, rfl⟩, rfl⟩

end Engine

end Lint

end CodeAudit
