import CodeAudit.Proofs.Reachable

/-!
This module contains what comes of a preset: no known rule keeps it from being applied, and it enables the
rules that it turns on together with all others that are not off from the start.
-/

namespace CodeAudit.Lint

namespace Config

/--
A preset turns a rule on: it has a setting for the rule, with a severity that is not `off`.
-/
def TurnsOn (preset id : String) : Prop :=
  ∃ s severity, (presetRules preset).get? id = some s ∧ Severity.Reads s.severity severity ∧
    severity ≠ .off

/-! ### The settings of presets -/

theorem presetRules_usable {name id : String} {s : Setting} (h : (presetRules name).get? id = some s)
    : ∃ severity fields, Severity.Reads s.severity severity ∧ severity ≠ .off ∧
        s.options = .object fields := by
  have hwarn : Severity.Reads (.text "warn") .warn := .name (by decide +kernel)
  have herror : Severity.Reads (.text "error") .error := .name (by decide +kernel)
  have hall : ∀ preset ∈ presets, ∀ rule ∈ preset.2,
      (rule.2.severity = .text "warn" ∨ rule.2.severity = .text "error") ∧
        ∃ fields, rule.2.options = .object fields := by
    simp only [presets, List.forall_mem_cons, List.not_mem_nil, false_implies, implies_true, and_true]
    simp [bounded, styled]
  cases presetRules_mem name with
  | inl hnil =>
    rw [hnil] at h
    cases h
  | inr hmem =>
    rcases hall _ hmem _ (Table.mem_of_get? h) with ⟨hseverity | hseverity, fields, hfields⟩
    . exact ⟨.warn, fields, hseverity ▸ hwarn, by decide, hfields⟩
    . exact ⟨.error, fields, hseverity ▸ herror, by decide, hfields⟩

theorem turnsOn_iff {preset id : String}
    : TurnsOn preset id ↔ (presetRules preset).has id = true := by
  unfold TurnsOn Table.has
  rw [Option.isSome_iff_exists]
  constructor
  . rintro ⟨s, _, hs, _, _⟩
    exact ⟨s, hs⟩
  . rintro ⟨s, hs⟩
    rcases presetRules_usable hs with ⟨severity, _, hread, hon, _⟩
    exact ⟨s, severity, hs, hread, hon⟩

instance (preset id : String) : Decidable (TurnsOn preset id) :=
  decidable_of_iff _ turnsOn_iff.symm

end Config

namespace Engine

/-! ### The rules that a preset enables -/

theorem resolve_preset {c : Config} {name : String} (hc : c.rules = Config.presetRules name)
    (spec : RuleSpec)
    : ∃ r, resolve c spec = .ok (some r) ∧ r.spec = spec ∧
        (r.isEnabled = true ↔ Config.TurnsOn name spec.id ∨ spec.defaultSeverity ≠ .off) := by
  rw [Config.turnsOn_iff, ← hc]
  unfold Table.has
  cases h : c.rules.get? spec.id with
  | none =>
    refine ⟨spec.standard, resolve_unset h, rfl, ?_⟩
    simp [Rule.isEnabled, RuleSpec.standard]
  | some s =>
    rcases Config.presetRules_usable (hc ▸ h) with ⟨severity, fields, hread, hon, hfields⟩
    have hres := resolve_on h hread hon
    rw [hfields] at hres
    refine ⟨_, hres, rfl, ?_⟩
    simp [Rule.isEnabled, hon]

theorem enabled_of_resolved {c : Config} {name : String} (hc : c.rules = Config.presetRules name)
    {specs : List RuleSpec} {held : Table Rule}
    (h : List.Forall₂ (fun spec entry => entry.1 = spec.id ∧ resolve c spec = .ok (some entry.2))
      specs held)
    : ((held.map (·.2)).filter (·.isEnabled)).map (·.spec.id) =
        (specs.filter fun spec =>
          Config.TurnsOn name spec.id ∨ spec.defaultSeverity ≠ .off).map (·.id) := by
  induction h with
  | nil => rfl
  | @cons spec entry specs held hhead htail ih =>
    rcases resolve_preset hc spec with ⟨r, hr, hspec, henabled⟩
    have hentry : entry.2 = r := by
      have heq := hhead.2.symm.trans hr
      simpa using heq
    rw [List.map_cons, hentry, List.filter_cons, List.filter_cons]
    by_cases hon : r.isEnabled = true
    . rw [if_pos hon, if_pos (by simpa using henabled.mp hon)]
      rw [List.map_cons, List.map_cons, ih, hspec]
    . rw [if_neg hon, if_neg (by simpa using mt henabled.mpr hon)]
      exact ih

theorem activate_preset_eq_none {c : Config} {name : String} (hc : c.rules = Config.presetRules name)
    (active : Table Rule) (specs : List RuleSpec) : (activate c active specs).2 = none := by
  rw [activate_eq_none_iff]
  intro spec _
  rcases resolve_preset hc spec with ⟨r, hr, _⟩
  exact ⟨some r, hr⟩

theorem activate_preset_held {c : Config} {name : String} (hc : c.rules = Config.presetRules name)
    {specs : List RuleSpec} (hids : (specs.map (·.id)).Nodup)
    : List.Forall₂ (fun spec entry => entry.1 = spec.id ∧ resolve c spec = .ok (some entry.2))
        specs (activate c [] specs).1 := by
  have hall : (specs.filter fun spec => !(c.rules.get? spec.id).any Setting.isOff) = specs := by
    rw [List.filter_eq_self]
    intro spec _
    rcases resolve_preset hc spec with ⟨r, hr, _⟩
    rw [not_any_isOff hr]
    rfl
  have hnone := activate_preset_eq_none hc [] specs
  rcases activate_held hids (by simp [Table.names]) hnone with ⟨held, hheld, hresolved⟩
  rw [hall] at hresolved
  rw [hheld]
  exact hresolved

theorem activate_preset {c : Config} {name : String} (hc : c.rules = Config.presetRules name)
    {specs : List RuleSpec} (hids : (specs.map (·.id)).Nodup)
    : (activate c [] specs).2 = none ∧
        (((activate c [] specs).1.map (·.2)).filter (·.isEnabled)).map (·.spec.id) =
          (specs.filter fun spec =>
            Config.TurnsOn name spec.id ∨ spec.defaultSeverity ≠ .off).map (·.id) :=
  ⟨activate_preset_eq_none hc [] specs, enabled_of_resolved hc (activate_preset_held hc hids)⟩

theorem map_filter_known {e : Engine} (he : e.Sound) (p : String → Prop) [DecidablePred p]
    : ((e.specs.map (·.2)).filter fun spec => p spec.id ∨ spec.defaultSeverity ≠ .off).map (·.id) =
        Table.names (e.specs.filter fun entry => p entry.1 ∨ entry.2.defaultSeverity ≠ .off) := by
  have hfilter : (e.specs.filter fun entry => p entry.2.id ∨ entry.2.defaultSeverity ≠ .off) =
      e.specs.filter fun entry => p entry.1 ∨ entry.2.defaultSeverity ≠ .off := by
    apply List.filter_congr
    intro entry hentry
    rw [he.ids entry hentry]
  rw [List.filter_map, List.map_map]
  unfold Function.comp
  rw [hfilter]
  apply List.map_congr_left
  intro entry hentry
  exact he.ids entry (List.mem_of_mem_filter hentry)

/--
A preset is applied without a fault, whatever rules are known, and enables the rules that it turns on and
all others that are not off from the start, in the order in which they became known. So it enables nothing
but what it turns on exactly where every other known rule is off from the start.
-/
theorem usePreset_enables (operations : List Operation) (name : String)
    : let e := run operations
      let after := e.usePreset (.text name)
      after.2 = none ∧
        after.1.enabledRules.map (·.spec.id) =
          Table.names (e.specs.filter fun entry =>
            Config.TurnsOn name entry.1 ∨ entry.2.defaultSeverity ≠ .off) ∧
        ((∀ id, id ∈ after.1.enabledRules.map (·.spec.id) ↔
            id ∈ e.specs.names ∧ Config.TurnsOn name id) ↔
          ∀ entry ∈ e.specs, ¬ Config.TurnsOn name entry.1 → entry.2.defaultSeverity = .off) := by
  intro e after
  have hpreset := activate_preset (c := Config.ofPreset name) rfl (run_known_nodup operations)
  have hids : after.1.enabledRules.map (·.spec.id) =
      Table.names (e.specs.filter fun entry =>
        Config.TurnsOn name entry.1 ∨ entry.2.defaultSeverity ≠ .off) := by
    rw [← map_filter_known (run_sound operations)]
    exact hpreset.2
  refine ⟨hpreset.1, hids, ?_⟩
  have honly := Table.mem_names_filter_iff e.specs (Config.TurnsOn name ·) (·.defaultSeverity ≠ .off)
  rw [hids]
  apply honly.trans
  simp only [ne_eq, not_not]

/--
The preset with the fewest settings turns one rule on, and with the rules of the library enables all.
-/
theorem usePreset_minimal_enables_all
    : let e := run [.registerBuiltin]
      let after := e.usePreset (.text "minimal")
      after.1.enabledRules.map (·.spec.id) = builtinRules.map (·.id) ∧
        (builtinRules.map (·.id)).filter (Config.TurnsOn "minimal" ·) = ["complexity/max-complexity"] ∧
        ¬ ∀ id, id ∈ after.1.enabledRules.map (·.spec.id) ↔
          id ∈ e.specs.names ∧ Config.TurnsOn "minimal" id := by
  intro e after
  have henabled : after.1.enabledRules.map (·.spec.id) = builtinRules.map (·.id) := by decide +kernel
  refine ⟨henabled, by decide +kernel, ?_⟩
  intro h
  have hparams : "complexity/max-params" ∈ after.1.enabledRules.map (·.spec.id) := by
    rw [henabled]
    decide
  have hnot : ¬ Config.TurnsOn "minimal" "complexity/max-params" := by decide
  exact hnot ((h _).mp hparams).2

end Engine

end CodeAudit.Lint
