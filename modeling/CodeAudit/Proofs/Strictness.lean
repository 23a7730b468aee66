import CodeAudit.Proofs.Batch
import CodeAudit.Proofs.Preset
import Mathlib.Data.List.Flatten

/-!
This module contains how the reports of two engines compare that have the same rules with different bounds. An
engine with lower bounds reports all that the other does, and more.
-/

namespace CodeAudit.Lint

/--
Which rule a violation comes from and where it is.
-/
def Violation.place (v : Violation) : String × Int × Int × Option String :=
  (v.ruleId, v.firstLine, v.lastLine, v.entryName)

/--
Which rule a mark comes from and where it is.
-/
def Mark.place (m : Mark) : String × Int × Int × Option String :=
  (m.ruleId, m.firstLine, m.lastLine, m.entryName)

theorem map_place (vs : List Violation) : (vs.map Violation.mark).map Mark.place = vs.map Violation.place := by
  rw [List.map_map]
  rfl

/-! ### One rule -/

namespace Rule

/--
The second rule is the first one of the library with the same style and, where the rule sets a bound, with an
integer for a bound that is not above that of the first.
-/
structure Stricter (r r' : Rule) : Prop where
  builtin : r.spec ∈ builtinRules
  spec : r'.spec = r.spec
  style : r'.option? "style" = r.option? "style"
  bound : r.option? "max" ≠ none → ∃ m ∈ r.bound?, ∃ m' ∈ r'.bound?, m' ≤ m

variable {r r' : Rule} {o : Outline}

theorem option?_eq_none_iff (h : r'.spec = r.spec) (name : String)
    : r'.option? name = none ↔ r.option? name = none := by
  unfold option?
  rw [h, Option.map_eq_none_iff, Option.map_eq_none_iff]

namespace Stricter

variable (h : r.Stricter r')

include h

theorem bounded : r.Bounded := by
  refine ⟨h.builtin, ?_⟩
  intro v hv
  rcases h.bound (by simp [hv]) with ⟨m, hm, _⟩
  exact exists_integer hm hv

theorem bounded' : r'.Bounded := by
  refine ⟨h.spec ▸ h.builtin, ?_⟩
  intro v hv
  have hsome : r.option? "max" ≠ none := by
    rw [ne_eq, ← option?_eq_none_iff h.spec, hv]
    exact Option.some_ne_none v
  rcases h.bound hsome with ⟨m, _, m', hm', _⟩
  exact exists_integer hm' hv

theorem stumbles_iff : r'.Stumbles o ↔ r.Stumbles o := by
  unfold Stumbles
  rw [h.style, h.spec]

theorem exceeded {amount : Int} (hr : r.Exceeded amount) : r'.Exceeded amount := by
  rcases hr with ⟨m, hm, hlt⟩
  have hsome : r.option? "max" ≠ none := by
    intro hnone
    unfold bound? at hm
    rw [hnone] at hm
    cases hm
  rcases h.bound hsome with ⟨n, hn, m', hm', hle⟩
  cases hm.symm.trans hn
  exact ⟨m', hm', Int.lt_of_le_of_lt hle hlt⟩

theorem broken_iff {name : String} : r'.Broken name ↔ r.Broken name := by
  unfold Broken style?
  rw [h.style]

theorem objects {e : Entry} (hr : r.Objects e) : r'.Objects e := by
  unfold Objects at hr ⊢
  rw [h.spec, h.broken_iff]
  rcases hr with ⟨hid, hkind, hover⟩ | ⟨hid, hkind, hover⟩ | ⟨hid, hkind, hover⟩ | hnaming
  . exact Or.inl ⟨hid, hkind, h.exceeded hover⟩
  . exact Or.inr (Or.inl ⟨hid, hkind, h.exceeded hover⟩)
  . exact Or.inr (Or.inr (Or.inl ⟨hid, hkind, h.exceeded hover⟩))
  . exact Or.inr (Or.inr (Or.inr hnaming))

theorem objectsToFile (hr : r.ObjectsToFile o) : r'.ObjectsToFile o := by
  unfold ObjectsToFile at hr ⊢
  rw [h.spec]
  rcases hr with ⟨hid, hover⟩ | ⟨hid, hover⟩ | ⟨hid, hover⟩
  . exact Or.inl ⟨hid, h.exceeded hover⟩
  . exact Or.inr (Or.inl ⟨hid, h.exceeded hover⟩)
  . exact Or.inr (Or.inr ⟨hid, h.exceeded hover⟩)

theorem marks_sublist (o : Outline)
    : List.Sublist ((r.marks o).map Mark.place) ((r'.marks o).map Mark.place) := by
  have hentry : ∀ e, (r'.entryMark o.path e).place = (r.entryMark o.path e).place := by
    intro e
    unfold entryMark Mark.place
    rw [h.spec]
  have hfile : (r'.fileMark o).place = (r.fileMark o).place := by
    unfold fileMark Mark.place
    rw [h.spec]
  unfold marks
  rw [List.map_append, List.map_append, List.map_map, List.map_map]
  refine List.Sublist.append ?_ ?_
  . simp only [Function.comp_def, hentry]
    apply List.Sublist.map
    apply List.monotone_filter_right
    intro e he
    exact decide_eq_true (h.objects (of_decide_eq_true he))
  . by_cases hr : r.ObjectsToFile o
    . rw [if_pos hr, if_pos (h.objectsToFile hr), List.map_singleton, List.map_singleton, hfile]
    . rw [if_neg hr]
      exact List.nil_sublist _

end Stricter

/-! ### Styles that are not known -/

theorem check_eq_nil {kinds : List EntryKind} {inspect : Options → Entry → Except Fault (List Finding)}
    (hinspection : r.spec.inspection = .entries kinds inspect)
    (hinspect : ∀ e fs, inspect r.options e = .ok fs → fs = []) {vs : List Violation}
    (h : r.check o = .ok vs) : vs = [] := by
  rcases bind_eq_ok_iff.mp h with ⟨fs, hfs, hvs⟩
  cases hvs
  rw [List.map_eq_nil_iff]
  unfold findings at hfs
  rw [hinspection] at hfs
  dsimp only at hfs
  split at hfs
  . rcases bind_eq_ok_iff.mp hfs with ⟨found, hfound, hflatten⟩
    cases hflatten
    rw [List.flatten_eq_nil_iff]
    intro fs hmem
    rcases exists_of_mem_mapM hfound hmem with ⟨e, _, hfs⟩
    exact hinspect e fs hfs
  . cases hfs
    rfl

theorem check_of_unknown_style (hr : r.spec ∈ builtinRules) {v : Value} (hv : r.option? "style" = some v)
    (hstyle : v.style? = none) {vs : List Violation} (h : r.check o = .ok vs) : vs = [] := by
  rcases r with ⟨spec, severity, options⟩
  rcases spec_of_style hr hv with rfl | rfl
  all_goals
    apply check_eq_nil rfl _ h
    intro e fs hfs
    rcases styleOption_unknown rfl hv hstyle with ⟨_, f, hoption⟩ | ⟨_, hoption⟩
    . rw [hoption] at hfs
      cases hfs
    . rw [hoption] at hfs
      cases hfs
      rfl

theorem Stricter.check_sublist (h : r.Stricter r') {vs vs' : List Violation} (hvs : r.check o = .ok vs)
    (hvs' : r'.check o = .ok vs') : List.Sublist (vs.map Violation.place) (vs'.map Violation.place) := by
  by_cases hstyle : ∀ v, r.option? "style" = some v → ∃ s, v.style? = some s
  . rcases check_marks ⟨h.builtin, h.bounded.bound, hstyle⟩ o with ⟨ws, hws, hmarks⟩
    rcases check_marks ⟨h.bounded'.builtin, h.bounded'.bound, h.style ▸ hstyle⟩ o with ⟨ws', hws', hmarks'⟩
    cases hvs.symm.trans hws
    cases hvs'.symm.trans hws'
    rw [← map_place, ← map_place, hmarks, hmarks']
    exact h.marks_sublist o
  . push Not at hstyle
    rcases hstyle with ⟨v, hv, hnone⟩
    rw [check_of_unknown_style h.builtin hv (Option.eq_none_iff_forall_ne_some.mpr hnone) hvs]
    exact List.nil_sublist _

theorem Regular.not_stumbles (hr : r.Regular) (o : Outline) : ¬ r.Stumbles o := by
  rintro ⟨⟨v, hv, hcollection⟩, _⟩
  rcases hr.style v hv with ⟨s, hs⟩
  rw [not_collection_of_style hs] at hcollection
  cases hcollection

end Rule

/-! ### All rules -/

namespace Engine

theorem flatten_sublist {rules rules' : List Rule} (h : List.Forall₂ Rule.Stricter rules rules') {o : Outline}
    {found found' : List (List Violation)} (hfound : rules.mapM (·.check o) = .ok found)
    (hfound' : rules'.mapM (·.check o) = .ok found')
    : List.Sublist (found.flatten.map Violation.place) (found'.flatten.map Violation.place) := by
  rw [mapM_eq_ok_iff] at hfound hfound'
  induction h generalizing found found' with
  | nil =>
    cases hfound
    exact List.nil_sublist _
  | cons hstricter _ ih =>
    cases hfound with
    | cons hcheck hrest =>
      cases hfound' with
      | cons hcheck' hrest' =>
        rw [List.flatten_cons, List.flatten_cons, List.map_append, List.map_append]
        exact (hstricter.check_sublist hcheck hcheck').append (ih hrest hrest')

theorem bounded_of_stricter {rules rules' : List Rule} (h : List.Forall₂ Rule.Stricter rules rules')
    : (∀ r ∈ rules, r.Bounded) ∧ ∀ r' ∈ rules', r'.Bounded := by
  induction h with
  | nil => exact ⟨List.forall_mem_nil _, List.forall_mem_nil _⟩
  | cons hstricter _ ih =>
    rw [List.forall_mem_cons, List.forall_mem_cons]
    exact ⟨⟨hstricter.bounded, ih.1⟩, hstricter.bounded', ih.2⟩

theorem stumbles_of_stricter {rules rules' : List Rule} (h : List.Forall₂ Rule.Stricter rules rules') (o : Outline)
    : (∀ r' ∈ rules', ¬ r'.Stumbles o) ↔ ∀ r ∈ rules, ¬ r.Stumbles o := by
  induction h with
  | nil => rfl
  | cons hstricter _ ih => rw [List.forall_mem_cons, List.forall_mem_cons, hstricter.stumbles_iff, ih]

theorem lint_stricter {e e' : Engine} (h : List.Forall₂ Rule.Stricter e.enabledRules e'.enabledRules) (o : Outline)
    : ((∃ r ∈ e.enabledRules, r.Stumbles o) ∧ (∃ f, e.lint o = .error f) ∧ ∃ f, e'.lint o = .error f) ∨
      ∃ result result', e.lint o = .ok result ∧ e'.lint o = .ok result' ∧
        List.Sublist (result.violations.map Violation.place) (result'.violations.map Violation.place) := by
  rcases bounded_of_stricter h with ⟨hbounded, hbounded'⟩
  have hends := exists_lint_iff (o := o) hbounded
  have hends' := (exists_lint_iff (o := o) hbounded').trans (stumbles_of_stricter h o)
  cases hlint : e.lint o with
  | error f =>
    left
    have hnot : ¬ ∃ result, e.lint o = .ok result := by simp [hlint]
    refine ⟨?_, ⟨f, rfl⟩, ?_⟩
    . by_contra hnone
      push Not at hnone
      exact hnot (hends.mpr hnone)
    . cases hlint' : e'.lint o with
      | error f' => exact ⟨f', rfl⟩
      | ok result' => exact absurd (hends.mpr (hends'.mp ⟨result', hlint'⟩)) hnot
  | ok result =>
    right
    rcases hends'.mpr (hends.mp ⟨result, hlint⟩) with ⟨result', hlint'⟩
    refine ⟨result, result', rfl, hlint', ?_⟩
    rcases (lint_eq_ok_iff hbounded).mp hlint with ⟨found, hfound, rfl⟩
    rcases (lint_eq_ok_iff hbounded').mp hlint' with ⟨found', hfound', rfl⟩
    rw [FileResult.violations_addAll, FileResult.violations_addAll]
    exact flatten_sublist h hfound hfound'

/-! ### Presets -/

/--
The rule that a preset makes of a known one.
-/
def presetRule (name : String) (spec : RuleSpec) : Rule :=
  match resolve (Config.ofPreset name) spec with
  | .ok (some r) => r
  | _ => spec.standard

theorem resolve_eq_presetRule {name : String} {spec : RuleSpec} {r : Rule}
    (h : resolve (Config.ofPreset name) spec = .ok (some r)) : r = presetRule name spec := by
  unfold presetRule
  rw [h]

theorem map_presetRule {name : String} {specs : List RuleSpec} {held : Table Rule}
    (h : List.Forall₂
      (fun spec entry => entry.1 = spec.id ∧ resolve (Config.ofPreset name) spec = .ok (some entry.2)) specs held)
    : held.map (·.2) = specs.map (presetRule name) := by
  induction h with
  | nil => rfl
  | cons hhead _ ih => rw [List.map_cons, List.map_cons, ih, resolve_eq_presetRule hhead.2]

theorem enabledRules_usePreset {specs : List RuleSpec} (hids : (specs.map (·.id)).Nodup) {e : Engine}
    (hspecs : e.specs.map (·.2) = specs) (name : String)
    : (e.usePreset (.text name)).2 = none ∧
        (e.usePreset (.text name)).1.enabledRules = (specs.map (presetRule name)).filter (·.isEnabled) := by
  have huse : e.usePreset (.text name) =
      ({ e with active := (activate (Config.ofPreset name) [] (e.specs.map (·.2))).1,
                config := some (Config.ofPreset name) },
        (activate (Config.ofPreset name) [] (e.specs.map (·.2))).2) := rfl
  rw [huse, hspecs]
  refine ⟨activate_preset_eq_none (c := Config.ofPreset name) rfl [] specs, ?_⟩
  unfold enabledRules
  rw [map_presetRule (activate_preset_held rfl hids)]

theorem stricter_presets {spec : RuleSpec} (h : spec ∈ builtinRules)
    : (presetRule "recommended" spec).Stricter (presetRule "strict" spec) := by
  rcases mem_builtinRules.mp h with rfl | rfl | rfl | rfl | rfl | rfl | rfl | rfl
  . exact ⟨h, rfl, rfl, fun _ => ⟨10, rfl, 8, rfl, by decide⟩⟩
  . exact ⟨h, rfl, rfl, fun _ => ⟨50, rfl, 30, rfl, by decide⟩⟩
  . exact ⟨h, rfl, rfl, fun _ => ⟨5, rfl, 4, rfl, by decide⟩⟩
  . exact ⟨h, rfl, rfl, fun hsome => absurd rfl hsome⟩
  . exact ⟨h, rfl, rfl, fun hsome => absurd rfl hsome⟩
  . exact ⟨h, rfl, rfl, fun _ => ⟨500, rfl, 300, rfl, by decide⟩⟩
  . exact ⟨h, rfl, rfl, fun _ => ⟨5, rfl, 3, rfl, by decide⟩⟩
  . exact ⟨h, rfl, rfl, fun _ => ⟨20, rfl, 10, rfl, by decide⟩⟩

theorem recommended_eq_standard {spec : RuleSpec} (h : spec ∈ builtinRules)
    : presetRule "recommended" spec = spec.standard := by
  rcases mem_builtinRules.mp h with rfl | rfl | rfl | rfl | rfl | rfl | rfl | rfl
  all_goals rfl

theorem strict_severity {spec : RuleSpec} (h : spec ∈ builtinRules)
    : (presetRule "strict" spec).severity = .error := by
  rcases mem_builtinRules.mp h with rfl | rfl | rfl | rfl | rfl | rfl | rfl | rfl
  all_goals rfl

section

variable {specs : List RuleSpec} {e : Engine} (hperm : specs.Perm builtinRules)
  (hspecs : e.specs = (specs.foldl register {}).specs)

include hperm hspecs

theorem usePreset_builtin {name : String} (hon : ∀ spec ∈ builtinRules, (presetRule name spec).isEnabled = true)
    : (e.usePreset (.text name)).2 = none ∧
        (e.usePreset (.text name)).1.enabledRules = specs.map (presetRule name) := by
  have hids : (specs.map (·.id)).Nodup := (hperm.map _).nodup_iff.mpr builtinRules_nodup
  have hknown : e.specs.map (·.2) = specs := by
    rw [hspecs]
    exact map_register_specs hids
  have henabled : (specs.map (presetRule name)).filter (·.isEnabled) = specs.map (presetRule name) := by
    rw [List.filter_eq_self, List.forall_mem_map]
    intro spec hspec
    exact hon spec (hperm.mem_iff.mp hspec)
  rw [← henabled]
  exact enabledRules_usePreset hids hknown name

theorem lint_strict (o : Outline)
    : (e.usePreset (.text "recommended")).2 = none ∧ (e.usePreset (.text "strict")).2 = none ∧
        ∃ result result', (e.usePreset (.text "recommended")).1.lint o = .ok result ∧
          (e.usePreset (.text "strict")).1.lint o = .ok result' ∧
          List.Sublist (result.violations.map Violation.place) (result'.violations.map Violation.place) ∧
          ∀ v ∈ result'.violations, v.severity = .error := by
  have hrecommended : ∀ spec ∈ builtinRules, (presetRule "recommended" spec).isEnabled = true := by
    intro spec hspec
    rw [recommended_eq_standard hspec]
    exact bne_iff_ne.mpr (builtinRules_not_off hspec)
  have hstrict : ∀ spec ∈ builtinRules, (presetRule "strict" spec).isEnabled = true := by
    intro spec hspec
    unfold Rule.isEnabled
    rw [strict_severity hspec]
    rfl
  rcases usePreset_builtin hperm hspecs hrecommended with ⟨hnone, hrules⟩
  rcases usePreset_builtin hperm hspecs hstrict with ⟨hnone', hrules'⟩
  have hstricter : List.Forall₂ Rule.Stricter (e.usePreset (.text "recommended")).1.enabledRules
      (e.usePreset (.text "strict")).1.enabledRules := by
    rw [hrules, hrules', List.forall₂_map_left_iff, List.forall₂_map_right_iff, List.forall₂_same]
    intro spec hspec
    exact stricter_presets (hperm.mem_iff.mp hspec)
  refine ⟨hnone, hnone', ?_⟩
  rcases lint_stricter hstricter o with ⟨⟨r, hr, hstumbles⟩, _⟩ | ⟨result, result', hlint, hlint', hsublist⟩
  . rw [hrules] at hr
    rcases List.mem_map.mp hr with ⟨spec, hspec, rfl⟩
    rw [recommended_eq_standard (hperm.mem_iff.mp hspec)] at hstumbles
    exact absurd hstumbles ((Rule.standard_regular (hperm.mem_iff.mp hspec)).not_stumbles o)
  . refine ⟨result, result', hlint, hlint', hsublist, ?_⟩
    intro v hv
    rcases exists_rule_of_violation hlint' hv with ⟨r, hr, _, hseverity⟩
    rw [hrules'] at hr
    rcases List.mem_map.mp hr with ⟨spec, hspec, rfl⟩
    rw [hseverity, strict_severity (hperm.mem_iff.mp hspec)]

end

/--
Of two engines with the same rules of the library in the same order and the same styles, the one whose bounds are
nowhere higher reports all that the other does, in the same order; only a style that cannot be looked up keeps
both from an end. So the strict preset reports all that the recommended one does, in whatever order the rules of
the library became known, and it reports errors only.
-/
theorem stricter_reports_all
    : (∀ e e' : Engine, List.Forall₂ Rule.Stricter e.enabledRules e'.enabledRules → ∀ o : Outline,
        ((∃ r ∈ e.enabledRules, r.Stumbles o) ∧ (∃ f, e.lint o = .error f) ∧ ∃ f, e'.lint o = .error f) ∨
        ∃ result result', e.lint o = .ok result ∧ e'.lint o = .ok result' ∧
          List.Sublist (result.violations.map Violation.place) (result'.violations.map Violation.place)) ∧
      ∀ (specs : List RuleSpec) (e : Engine), specs.Perm builtinRules →
        e.specs = (specs.foldl register {}).specs →
        ∀ o : Outline,
          (e.usePreset (.text "recommended")).2 = none ∧ (e.usePreset (.text "strict")).2 = none ∧
          ∃ result result', (e.usePreset (.text "recommended")).1.lint o = .ok result ∧
            (e.usePreset (.text "strict")).1.lint o = .ok result' ∧
            List.Sublist (result.violations.map Violation.place) (result'.violations.map Violation.place) ∧
            ∀ v ∈ result'.violations, v.severity = .error :=
  ⟨fun _ _ h o => lint_stricter h o, fun _ _ hperm hspecs o => lint_strict hperm hspecs o⟩

-- Two engines with one rule: its bound is an integer in the first and a truth value, which counts as one, in the
-- second.
def looseEngine : Engine where
  active := [(maxComplexity.id, ⟨maxComplexity, .warn, [("max", .int 10)]⟩)]

def tightEngine : Engine where
  active := [(maxComplexity.id, ⟨maxComplexity, .warn, [("max", .bool true)]⟩)]

/--
The engine that knows the rules of the library in reverse order.
-/
def reversedEngine : Engine :=
  builtinRules.reverse.foldl register {}

theorem stricter_reports_all_boxOutline
    : (List.Forall₂ Rule.Stricter looseEngine.enabledRules tightEngine.enabledRules ∧
        ∃ result result', looseEngine.lint boxOutline = .ok result ∧ tightEngine.lint boxOutline = .ok result' ∧
          List.Sublist (result.violations.map Violation.place) (result'.violations.map Violation.place) ∧
          result.violations.length = 1 ∧ result'.violations.length = 2) ∧
      ∃ result result', (reversedEngine.usePreset (.text "recommended")).1.lint boxOutline = .ok result ∧
        (reversedEngine.usePreset (.text "strict")).1.lint boxOutline = .ok result' ∧
        List.Sublist (result.violations.map Violation.place) (result'.violations.map Violation.place) ∧
        (∀ v ∈ result'.violations, v.severity = .error) ∧
        result.violations.length = 5 ∧ result'.violations.length = 7 := by
  have hreports := stricter_reports_all
  constructor
  . have hstricter : List.Forall₂ Rule.Stricter looseEngine.enabledRules tightEngine.enabledRules :=
      .cons ⟨by simp [builtinRules], rfl, rfl, fun _ => ⟨10, rfl, 1, rfl, by decide⟩⟩ .nil
    refine ⟨hstricter, ?_⟩
    have hloose : ∃ result, looseEngine.lint boxOutline = .ok result ∧ result.violations.length = 1 := ⟨_, rfl, rfl⟩
    have htight : ∃ result, tightEngine.lint boxOutline = .ok result ∧ result.violations.length = 2 := ⟨_, rfl, rfl⟩
    rcases hloose with ⟨result, hlint, hlength⟩
    rcases htight with ⟨result', hlint', hlength'⟩
    rcases hreports.1 _ _ hstricter boxOutline with ⟨_, ⟨f, hfault⟩, _⟩ | ⟨_, _, h, h', hsublist⟩
    . cases hlint.symm.trans hfault
    . cases hlint.symm.trans h
      cases hlint'.symm.trans h'
      exact ⟨result, result', hlint, hlint', hsublist, hlength, hlength'⟩
  . have hperm : builtinRules.reverse.Perm builtinRules := List.reverse_perm builtinRules
    have hrecommended : ∃ result, (reversedEngine.usePreset (.text "recommended")).1.lint boxOutline = .ok result ∧
        result.violations.length = 5 := ⟨_, rfl, rfl⟩
    have hstrict : ∃ result, (reversedEngine.usePreset (.text "strict")).1.lint boxOutline = .ok result ∧
        result.violations.length = 7 := ⟨_, rfl, rfl⟩
    rcases hrecommended with ⟨result, hlint, hlength⟩
    rcases hstrict with ⟨result', hlint', hlength'⟩
    rcases (hreports.2 _ reversedEngine hperm rfl boxOutline).2.2 with ⟨_, _, h, h', hsublist, herrors⟩
    cases hlint.symm.trans h
    cases hlint'.symm.trans h'
    exact ⟨result, result', hlint, hlint', hsublist, herrors, hlength, hlength'⟩

end Engine

end CodeAudit.Lint
