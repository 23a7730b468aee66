import CodeAudit.Lint.Engine
import CodeAudit.Proofs.Fault
import CodeAudit.Proofs.Naming
import Mathlib.Data.Option.Basic

/-!
This module contains what the rules that come with the library have to say about an outline, and that a
lint reports this and nothing else.
-/

namespace CodeAudit

/--
The integer that a value counts as.
-/
def Value.integer? : Value → Option Int
  | .int n => some n
  | .bool b => some (if b then 1 else 0)
  | _ => none

/--
The style that a value names.
-/
def Value.style? : Value → Option Lint.Style
  | .text name => Lint.Style.named.get? name
  | _ => none

/--
The entries that are functions or methods.
-/
def Entry.IsFunction (e : Entry) : Prop :=
  e.kind = .function ∨ e.kind = .method

instance (e : Entry) : Decidable e.IsFunction :=
  inferInstanceAs (Decidable (_ ∨ _))

namespace Lint

/--
What a violation says apart from its texts: which rule it comes from, and where it stands.
-/
structure Mark where
  ruleId : String
  severity : Severity
  path : String
  firstLine : Int
  lastLine : Int
  entryName : Option String
  entryKind : Option String
  deriving DecidableEq

/--
The mark of a violation.
-/
def Violation.mark (v : Violation) : Mark where
  ruleId := v.ruleId
  severity := v.severity
  path := v.path
  firstLine := v.firstLine
  lastLine := v.lastLine
  entryName := v.entryName
  entryKind := v.entryKind

/-! ### What the rules object to -/

namespace Rule

/--
The option of a rule, if the rule has one of that name: as it is set, or else as it is from the start.
-/
def option? (r : Rule) (name : String) : Option Value :=
  (r.spec.defaultOptions.get? name).map (r.options.get? name).getD

/--
The bound that the rule sets.
-/
def bound? (r : Rule) : Option Int :=
  (r.option? "max").bind Value.integer?

/--
The style that the rule asks for.
-/
def style? (r : Rule) : Option Style :=
  (r.option? "style").bind Value.style?

/--
The rules that come with the library, with a bound that is an integer and a style that is known.
-/
structure Regular (r : Rule) : Prop where
  builtin : r.spec ∈ builtinRules
  bound : ∀ v, r.option? "max" = some v → ∃ m, v.integer? = some m
  style : ∀ v, r.option? "style" = some v → ∃ s, v.style? = some s

/--
The amount is over the bound of the rule.
-/
def Exceeded (r : Rule) (amount : Int) : Prop :=
  ∃ m ∈ r.bound?, m < amount

/--
The name is not of the style of the rule.
-/
def Broken (r : Rule) (name : String) : Prop :=
  ∃ s ∈ r.style?, ¬ s.Fits name

instance (r : Rule) (amount : Int) : Decidable (r.Exceeded amount) :=
  inferInstanceAs (Decidable (∃ m ∈ r.bound?, m < amount))

instance (r : Rule) (name : String) : Decidable (r.Broken name) :=
  inferInstanceAs (Decidable (∃ s ∈ r.style?, ¬ s.Fits name))

/--
The entries that a rule objects to.
-/
def Objects (r : Rule) (e : Entry) : Prop :=
  (r.spec.id = "complexity/max-complexity" ∧ e.IsFunction ∧ r.Exceeded e.complexity) ∨
  (r.spec.id = "complexity/max-function-lines" ∧ e.IsFunction ∧
    r.Exceeded (e.lastLine - e.firstLine + 1)) ∨
  (r.spec.id = "complexity/max-params" ∧ e.IsFunction ∧
    r.Exceeded (e.params.filter fun p => p ≠ "self" ∧ p ≠ "cls").length) ∨
  (r.spec.id = "naming/function-naming" ∧ e.IsFunction ∧ r.Broken e.name ∧ ¬ Reserved e.name) ∨
  (r.spec.id = "naming/class-naming" ∧ e.kind = .class_ ∧ r.Broken e.name)

/--
The outlines that a rule objects to as a whole.
-/
def ObjectsToFile (r : Rule) (o : Outline) : Prop :=
  (r.spec.id = "structure/max-file-lines" ∧ r.Exceeded o.lines.total) ∨
  (r.spec.id = "structure/max-classes-per-file" ∧
    r.Exceeded (o.entries.filter fun e => e.kind = .class_).length) ∨
  (r.spec.id = "structure/max-functions-per-file" ∧
    r.Exceeded (o.entries.filter fun e => e.kind = .function).length)

instance (r : Rule) (e : Entry) : Decidable (r.Objects e) :=
  inferInstanceAs (Decidable (_ ∨ _))

instance (r : Rule) (o : Outline) : Decidable (r.ObjectsToFile o) :=
  inferInstanceAs (Decidable (_ ∨ _))

/--
The mark of an entry that the rule objects to.
-/
def entryMark (r : Rule) (path : String) (e : Entry) : Mark where
  ruleId := r.spec.id
  severity := r.severity
  path := path
  firstLine := e.firstLine
  lastLine := e.lastLine
  entryName := some e.name
  entryKind := some e.kind.name

/--
The mark of an outline that the rule objects to as a whole.
-/
def fileMark (r : Rule) (o : Outline) : Mark where
  ruleId := r.spec.id
  severity := r.severity
  path := o.path
  firstLine := 1
  lastLine := o.lines.total
  entryName := none
  entryKind := none

/--
All that the rule has to say about an outline.
-/
def marks (r : Rule) (o : Outline) : List Mark :=
  (o.entries.filter fun e => r.Objects e).map (r.entryMark o.path) ++
    if r.ObjectsToFile o then [r.fileMark o] else []

end Rule

/-! ### Options -/

theorem exceeds_eq {v : Value} {m : Int} (amount : Int) (h : v.integer? = some m)
    : exceeds amount v = .ok (m < amount) := by
  cases v with
  | int n =>
    cases h
    rfl
  | bool b =>
    cases h
    rfl
  | _ => cases h

namespace Rule

variable {r : Rule}

theorem exists_integer {m : Int} (h : m ∈ r.bound?) {v : Value} (hv : r.option? "max" = some v)
    : ∃ m, v.integer? = some m := by
  unfold bound? at h
  rw [hv] at h
  exact ⟨m, h⟩

theorem exceeded_iff {m : Int} (h : r.bound? = some m) (amount : Int) : r.Exceeded amount ↔ m < amount := by
  simp [Exceeded, h]

theorem overLimit_eq (hr : r.Regular) {default : Int}
    (hdefault : r.spec.defaultOptions.get? "max" = some (.int default)) (amount : Int) (f : Finding)
    : overLimit amount (maxOption r.options default) f = .ok (if r.Exceeded amount then [f] else []) := by
  have hoption : r.option? "max" = some (maxOption r.options default) := by
    unfold option?
    rw [hdefault]
    rfl
  rcases hr.bound _ hoption with ⟨m, hm⟩
  have hbound : r.bound? = some m := by
    unfold bound?
    rw [hoption]
    exact hm
  unfold overLimit
  rw [exceeds_eq amount hm]
  simp [orFault, exceeded_iff hbound, bind, Except.bind, pure, Except.pure]

theorem styleOption_eq (hr : r.Regular) {default : String}
    (hdefault : r.spec.defaultOptions.get? "style" = some (.text default))
    : ∃ name s, styleOption r.options default = .ok (some (name, s)) ∧ r.style? = some s := by
  have hoption : r.option? "style" = some ((r.options.get? "style").getD (.text default)) := by
    unfold option?
    rw [hdefault]
    rfl
  rcases hr.style _ hoption with ⟨s, hs⟩
  have hstyle : r.style? = some s := by
    unfold style?
    rw [hoption]
    exact hs
  unfold styleOption
  generalize (r.options.get? "style").getD (.text default) = v at hs
  cases v with
  | text name =>
    have hnamed : Style.named.get? name = some s := hs
    refine ⟨name, s, ?_, hstyle⟩
    simp [Value.lookupText?, orFault, hnamed, bind, Except.bind, pure, Except.pure]
  | _ => cases hs

theorem broken_iff {s : Style} (hs : r.style? = some s) (name : String)
    : r.Broken name ↔ ¬ s.Fits name := by
  unfold Broken
  rw [hs]
  simp

theorem standard_regular {spec : RuleSpec} (hspec : spec ∈ builtinRules) : spec.standard.Regular := by
  refine ⟨hspec, ?_, ?_⟩
  all_goals
    intro v hv
    rcases mem_builtinRules.mp hspec with rfl | rfl | rfl | rfl | rfl | rfl | rfl | rfl
    all_goals cases hv <;> exact ⟨_, rfl⟩

/-! ### Rules -/

theorem flatten_map_ite {α β : Type} (p : α → Prop) [DecidablePred p] (f : α → β) (as : List α)
    : (as.map fun a => if p a then [f a] else []).flatten = (as.filter fun a => p a).map f := by
  induction as with
  | nil => rfl
  | cons a rest ih =>
    rw [List.map_cons, List.flatten_cons, ih]
    by_cases ha : p a
    . simp [ha]
    . simp [ha]

theorem findings_entries {kinds : List EntryKind}
    {inspect : Options → Entry → Except Fault (List Finding)}
    {p : Entry → Prop} [DecidablePred p] {f : Entry → Finding}
    (hinspection : r.spec.inspection = .entries kinds inspect) (hlanguages : r.spec.languages = [])
    (hinspect : ∀ e, inspect r.options e = .ok (if p e then [f e] else [])) (o : Outline)
    : r.findings o = .ok (((o.entries.filter (targets kinds)).filter fun e => p e).map f) := by
  have hsupports : r.spec.supports o.language = true := by
    unfold RuleSpec.supports
    rw [hlanguages]
    rfl
  unfold findings
  rw [hinspection]
  dsimp only
  rw [if_pos hsupports]
  rw [mapM_eq_ok fun e _ => hinspect e]
  rw [← flatten_map_ite]
  rfl

theorem check_eq_ok {o : Outline} {fs : List Finding} (h : r.findings o = .ok fs)
    : r.check o = .ok (fs.map (r.report o.path)) := by
  unfold check
  rw [h]
  rfl

/--
What a rule reports is under its name and as severe as the rule is.
-/
theorem reported_of_check {o : Outline} {vs : List Violation} (h : r.check o = .ok vs)
    : ∀ v ∈ vs, v.ruleId = r.spec.id ∧ v.severity = r.severity := by
  rcases bind_eq_ok_iff.mp h with ⟨fs, _, hvs⟩
  cases hvs
  intro v hv
  rcases List.mem_map.mp hv with ⟨f, _, rfl⟩
  exact ⟨rfl, rfl⟩

-- Of a rule that looks at entries it is enough to know when its inspection makes a finding. Whether the
-- entry is of a kind that the rule looks at is left to the rule.
theorem check_entries {kinds : List EntryKind} {inspect : Options → Entry → Except Fault (List Finding)}
    {p : Entry → Prop} [DecidablePred p] {f : Entry → Finding} {o : Outline}
    (hinspection : r.spec.inspection = .entries kinds inspect) (hlanguages : r.spec.languages = [])
    (hinspect : ∀ e, inspect r.options e = .ok (if p e then [f e] else []))
    (hmark : ∀ e, (r.report o.path (f e)).mark = r.entryMark o.path e)
    (hobjects : ∀ e, r.Objects e ↔ targets kinds e ∧ p e) (hfile : ¬ r.ObjectsToFile o)
    : ∃ vs, r.check o = .ok vs ∧ vs.map Violation.mark = r.marks o := by
  refine ⟨_, check_eq_ok (findings_entries hinspection hlanguages hinspect o), ?_⟩
  have hfilter : (o.entries.filter (targets kinds)).filter (fun e => p e) =
      o.entries.filter fun e => r.Objects e := by
    rw [List.filter_filter]
    apply List.filter_congr
    intro e _
    simp [hobjects, Bool.and_comm]
  unfold marks
  rw [if_neg hfile, List.append_nil, hfilter]
  rw [List.map_map, List.map_map]
  apply List.map_congr_left
  intro e _
  exact hmark e

theorem check_whole {inspect : Options → Outline → Except Fault (List Finding)} {f : Finding}
    {o : Outline} (hinspection : r.spec.inspection = .whole inspect)
    (hinspect : inspect r.options o = .ok (if r.ObjectsToFile o then [f] else []))
    (hmark : (r.report o.path f).mark = r.fileMark o) (hobjects : ∀ e, ¬ r.Objects e)
    : ∃ vs, r.check o = .ok vs ∧ vs.map Violation.mark = r.marks o := by
  have hfound : r.findings o = .ok (if r.ObjectsToFile o then [f] else []) := by
    unfold findings
    rw [hinspection]
    exact hinspect
  refine ⟨_, check_eq_ok hfound, ?_⟩
  have hfilter : (o.entries.filter fun e => r.Objects e) = [] := by simp [hobjects]
  unfold marks
  rw [hfilter]
  split
  . simp [hmark]
  . rfl

theorem targets_functionKinds (e : Entry) : targets functionKinds e = true ↔ e.IsFunction := by
  simp [targets, functionKinds, Entry.IsFunction]

theorem givenParams_eq (e : Entry)
    : givenParams e = e.params.filter fun p => p ≠ "self" ∧ p ≠ "cls" := by
  unfold givenParams
  apply List.filter_congr
  intro p _
  rw [Bool.eq_iff_iff]
  simp

theorem check_functionLimit (hr : r.Regular) {amount : Entry → Int} {default : Int}
    {f : Options → Entry → Finding} {o : Outline}
    (hinspection : r.spec.inspection = .entries functionKinds fun options e =>
      overLimit (amount e) (maxOption options default) (f options e))
    (hlanguages : r.spec.languages = [])
    (hdefault : r.spec.defaultOptions.get? "max" = some (.int default))
    (hmark : ∀ e, (r.report o.path (f r.options e)).mark = r.entryMark o.path e)
    (hobjects : ∀ e, r.Objects e ↔ e.IsFunction ∧ r.Exceeded (amount e)) (hfile : ¬ r.ObjectsToFile o)
    : ∃ vs, r.check o = .ok vs ∧ vs.map Violation.mark = r.marks o := by
  apply check_entries hinspection hlanguages (fun e => overLimit_eq hr hdefault _ _) hmark _ hfile
  intro e
  rw [hobjects, targets_functionKinds]

theorem check_fileLimit (hr : r.Regular) {amount : Outline → Int} {default : Int}
    {f : Options → Outline → Finding} {o : Outline}
    (hinspection : r.spec.inspection = .whole fun options o =>
      overLimit (amount o) (maxOption options default) (f options o))
    (hdefault : r.spec.defaultOptions.get? "max" = some (.int default))
    (hmark : (r.report o.path (f r.options o)).mark = r.fileMark o) (hobjects : ∀ e, ¬ r.Objects e)
    (hfile : r.ObjectsToFile o ↔ r.Exceeded (amount o))
    : ∃ vs, r.check o = .ok vs ∧ vs.map Violation.mark = r.marks o := by
  apply check_whole hinspection _ hmark hobjects
  rw [overLimit_eq hr hdefault]
  simp only [hfile]

-- Both rules about names are of this form: one exempts the names that the language gives, the other none.
theorem check_naming (hr : r.Regular) (exempt : List Char → Bool) {kinds : List EntryKind}
    {default what : String} {o : Outline}
    (hinspection : r.spec.inspection = .entries kinds fun options e => do
      match ← styleOption options default with
      | none => return []
      | some (styleName, style) =>
        let name := withoutLineEnd e.name.toList
        return if exempt name || style.accepts name then [] else [nameFinding e what styleName style])
    (hlanguages : r.spec.languages = [])
    (hdefault : r.spec.defaultOptions.get? "style" = some (.text default))
    (hobjects : ∀ e, r.Objects e ↔ targets kinds e ∧ r.Broken e.name ∧
      ¬ exempt (withoutLineEnd e.name.toList)) (hfile : ¬ r.ObjectsToFile o)
    : ∃ vs, r.check o = .ok vs ∧ vs.map Violation.mark = r.marks o := by
  rcases styleOption_eq hr hdefault with ⟨styleName, s, hoption, hs⟩
  apply check_entries (f := fun e => nameFinding e what styleName s) hinspection hlanguages _ _
    hobjects hfile
  . intro e
    rw [hoption]
    have hkept : (exempt (withoutLineEnd e.name.toList) || s.accepts (withoutLineEnd e.name.toList)) =
        true ↔ ¬ (r.Broken e.name ∧ ¬ exempt (withoutLineEnd e.name.toList)) := by
      rw [Bool.or_eq_true, broken_iff hs, Style.accepts_withoutLineEnd_iff]
      tauto
    dsimp only [bind, Except.bind, pure, Except.pure]
    rw [if_congr hkept rfl rfl, ite_not]
  . intro e
    rfl

theorem check_marks (hr : r.Regular) (o : Outline)
    : ∃ vs, r.check o = .ok vs ∧ vs.map Violation.mark = r.marks o := by
  rcases r with ⟨spec, severity, options⟩
  rcases mem_builtinRules.mp hr.builtin with rfl | rfl | rfl | rfl | rfl | rfl | rfl | rfl
  . have hid : maxComplexity.id = "complexity/max-complexity" := rfl
    apply check_functionLimit hr rfl rfl rfl
    . intro e
      rfl
    . simp [Objects, hid]
    . simp [ObjectsToFile, hid]
  . have hid : maxFunctionLines.id = "complexity/max-function-lines" := rfl
    apply check_functionLimit hr rfl rfl rfl
    . intro e
      rfl
    . simp [Objects, hid, lineCount]
    . simp [ObjectsToFile, hid]
  . have hid : maxParams.id = "complexity/max-params" := rfl
    apply check_functionLimit hr rfl rfl rfl
    . intro e
      rfl
    . simp [Objects, hid, givenParams_eq]
    . simp [ObjectsToFile, hid]
  . have hid : functionNaming.id = "naming/function-naming" := rfl
    apply check_naming hr isReserved rfl rfl rfl
    . intro e
      rw [targets_functionKinds, isReserved_withoutLineEnd_iff]
      simp [Objects, hid]
    . simp [ObjectsToFile, hid]
  . have hid : classNaming.id = "naming/class-naming" := rfl
    apply check_naming hr (fun _ => false) rfl rfl rfl
    . intro e
      simp [Objects, hid, targets]
    . simp [ObjectsToFile, hid]
  . have hid : maxFileLines.id = "structure/max-file-lines" := rfl
    apply check_fileLimit hr rfl rfl rfl
    . simp [Objects, hid]
    . simp [ObjectsToFile, hid]
  . have hid : maxClassesPerFile.id = "structure/max-classes-per-file" := rfl
    apply check_fileLimit hr rfl rfl rfl
    . simp [Objects, hid]
    . simp [ObjectsToFile, hid, Outline.classes, Outline.ofKind]
  . have hid : maxFunctionsPerFile.id = "structure/max-functions-per-file" := rfl
    apply check_fileLimit hr rfl rfl rfl
    . simp [Objects, hid]
    . simp [ObjectsToFile, hid, Outline.functions, Outline.ofKind]

end Rule

/-! ### Lint -/

theorem FileResult.violations_addAll (result : FileResult) (vs : List Violation)
    : (result.addAll vs).violations = result.violations ++ vs := by
  unfold addAll
  induction vs generalizing result with
  | nil => simp
  | cons v rest ih =>
    rw [List.foldl_cons, ih]
    simp [add]

namespace Engine

theorem mapM_check_marks {rules : List Rule} (h : ∀ r ∈ rules, r.Regular) (o : Outline)
    : ∃ found, rules.mapM (·.check o) = .ok found ∧
        found.flatten.map Violation.mark = rules.flatMap (·.marks o) := by
  induction rules with
  | nil => exact ⟨[], rfl, rfl⟩
  | cons r rest ih =>
    rcases Rule.check_marks (h r List.mem_cons_self) o with ⟨vs, hvs, hmarks⟩
    rcases ih fun r' hr' => h r' (List.mem_cons_of_mem _ hr') with ⟨found, hfound, hrest⟩
    refine ⟨vs :: found, ?_, ?_⟩
    . rw [List.mapM_cons, hvs, hfound]
      rfl
    . rw [List.flatten_cons, List.map_append, List.flatMap_cons, hmarks, hrest]

theorem supports_of_builtin {spec : RuleSpec} (hspec : spec ∈ builtinRules) (language : String)
    : spec.supports language = true := by
  unfold RuleSpec.supports
  rcases mem_builtinRules.mp hspec with h | h | h | h | h | h | h | h
  all_goals
    rw [h]
    rfl

theorem supports_of_regular {r : Rule} (hr : r.Regular) (language : String)
    : r.spec.supports language = true :=
  supports_of_builtin hr.builtin language

/--
A lint with the rules of the library comes to its end, and its violations are what the rules object to,
in the order of the rules and, for each rule, in the order of the entries.
-/
theorem lint_marks (e : Engine) (o : Outline) (h : ∀ r ∈ e.enabledRules, r.Regular)
    : ∃ result, e.lint o = .ok result ∧
        result.violations.map Violation.mark =
          e.enabledRules.flatMap fun r =>
            (o.entries.filter fun entry => r.Objects entry).map (r.entryMark o.path) ++
              if r.ObjectsToFile o then [r.fileMark o] else [] := by
  have hall : (e.enabledRules.filter fun r => r.spec.supports o.language) = e.enabledRules := by
    rw [List.filter_eq_self]
    intro r hr
    exact supports_of_regular (h r hr) o.language
  rcases mapM_check_marks h o with ⟨found, hfound, hmarks⟩
  have hviolations : e.violations o = .ok found.flatten := by
    unfold violations
    rw [hall]
    dsimp only
    rw [hfound]
    rfl
  refine ⟨FileResult.addAll { path := o.path, problems := o.problems } found.flatten, ?_, ?_⟩
  . unfold lint
    rw [hviolations]
    rfl
  . rw [FileResult.violations_addAll, List.nil_append, hmarks]
    rfl

/--
The engine in which every rule of the library is active as it is from the start.
-/
def builtin : Engine where
  active := builtinRules.map fun spec => (spec.id, spec.standard)

/--
The outline of a file with a class and two methods.
-/
def boxOutline : Outline where
  path := "box.py"
  language := "python"
  entries :=
    [{ kind := .class_, name := "box", firstLine := 1, lastLine := 501 },
      { kind := .method, name := "__init__", firstLine := 2, lastLine := 51, complexity := 10 },
      { kind := .method, name := "openBox", firstLine := 52, lastLine := 501, complexity := 11 }]
  lines := { total := 501 }

theorem lint_marks_boxOutline
    : ∃ result, builtin.lint boxOutline = .ok result ∧
        result.violations.map Violation.mark =
          [⟨"complexity/max-complexity", .warn, "box.py", 52, 501, some "openBox", some "method"⟩,
            ⟨"complexity/max-function-lines", .warn, "box.py", 52, 501, some "openBox", some "method"⟩,
            ⟨"naming/function-naming", .warn, "box.py", 52, 501, some "openBox", some "method"⟩,
            ⟨"naming/class-naming", .warn, "box.py", 1, 501, some "box", some "class"⟩,
            ⟨"structure/max-file-lines", .warn, "box.py", 1, 501, none, none⟩] := by
  have hregular : ∀ r ∈ builtin.enabledRules, r.Regular := by
    have hrules : builtin.enabledRules = builtinRules.map RuleSpec.standard := rfl
    rw [hrules]
    intro r hr
    rcases List.mem_map.mp hr with ⟨spec, hspec, rfl⟩
    exact Rule.standard_regular hspec
  rcases lint_marks builtin boxOutline hregular with ⟨result, hlint, hmarks⟩
  refine ⟨result, hlint, ?_⟩
  rw [hmarks]
  decide +kernel

end Engine

end Lint
end CodeAudit
