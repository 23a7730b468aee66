import CodeAudit.Proofs.Preset

/-!
This module contains what a new configuration leaves behind where it stops at a fault: nothing has changed
if there was no configuration yet to apply, and otherwise the rules before the one at fault are active as
the new configuration has them.
-/

namespace CodeAudit.Lint

namespace Config

/-! ### The settings of a configuration that was loaded -/

theorem ofPresetValue_eq_ok {v : Value} {c : Config} (h : ofPresetValue v = .ok c)
    : ∃ name, c.rules = presetRules name := by
  rcases bind_eq_ok_iff.mp h with ⟨found, _, h⟩
  cases found with
  | some name =>
    cases h
    exact ⟨name, rfl⟩
  | none =>
    cases h
    exact ⟨"", rfl⟩

theorem overlayPresets_wellFormed {rules rules' : Table Setting} {names : List Value}
    (hrules : ∀ id s, rules.get? id = some s → s.options.WellFormed)
    (h : overlayPresets rules names = .ok rules') {id : String} {s : Setting}
    (hs : rules'.get? id = some s) : s.options.WellFormed := by
  induction names generalizing rules with
  | nil =>
    cases h
    exact hrules id s hs
  | cons name names ih =>
    rcases bind_eq_ok_iff.mp h with ⟨preset, hpreset, h⟩
    rcases ofPresetValue_eq_ok hpreset with ⟨known, hknown⟩
    apply ih _ h
    intro id s hs
    rw [hknown, Table.get?_overlay _ (presetRules_nodup known), Option.or_eq_some_iff] at hs
    cases hs with
    | inl hupper => exact presetRules_wellFormed hupper
    | inr hlower => exact hrules id s hlower.2

theorem ofValue_wellFormed {v : Value} (hv : v.WellFormed) {c : Config} (h : ofValue v = .ok c)
    {id : String} {s : Setting} (hs : c.rules.get? id = some s) : s.options.WellFormed := by
  rcases bind_eq_ok_iff.mp h with ⟨fields, hfields, h⟩
  rcases bind_eq_ok_iff.mp h with ⟨members, _, h⟩
  rcases bind_eq_ok_iff.mp h with ⟨base, hbase, h⟩
  rcases bind_eq_ok_iff.mp h with ⟨given, hgiven, h⟩
  cases h
  rw [Value.fieldsFor_eq_ok (orFault_eq_ok_iff.mp hfields)] at hv
  have hentries := hv.getD "rules" .empty
  rw [Value.fieldsFor_eq_ok (orFault_eq_ok_iff.mp hgiven)] at hentries
  dsimp only at hs
  rw [Table.get?_overlay, Table.get?_map, Option.or_eq_some_iff] at hs
  . cases hs with
    | inl hupper =>
      rcases Option.map_eq_some_iff.mp hupper with ⟨entry, hentry, rfl⟩
      exact ofValue_options_wellFormed (hentries.of_get? hentry)
    | inr hlower => exact overlayPresets_wellFormed (by simp) hbase hlower.2
  . rw [Table.names_map]
    exact hentries.nodup_names

theorem load_wellFormed {formats : Formats} {files : Files.Store} {path folder : Option String}
    {c : Config} (h : load formats files path folder = .ok c) {id : String} {s : Setting}
    (hs : c.rules.get? id = some s) : s.options.WellFormed := by
  rw [load_eq] at h
  rcases bind_eq_ok_iff.mp h with ⟨found, hfound, h⟩
  cases found with
  | some v => exact ofValue_wellFormed (source?_wellFormed hfound) h hs
  | none =>
    cases h
    exact @presetRules_wellFormed "recommended" id s hs

theorem source?_json {formats : Formats} {files : Files.Store} {path : String} {folder : Option String}
    {text : List Char} {v : Value} (hpath : path ≠ "")
    (hsuffix : (Files.Path.ofString path).suffix = ".json")
    (htext : files.readText (Files.Path.ofString path).toString = .ok text)
    (hread : Json.read (String.ofList text) = .ok v)
    : source? formats files (some path) folder = .ok (some v) := by
  unfold source?
  rw [Option.filter_some_pos (by simpa using hpath)]
  unfold fileValue
  simp only [hsuffix, htext, orFileFault, bind, Except.bind, hread]
  rfl

/--
No rule can be made of the known one under the configuration.
-/
def Spoils (c : Config) (spec : RuleSpec) : Prop :=
  ∃ s, c.rules.get? spec.id = some s ∧ s.Faulty

end Config

namespace Engine

/--
What is left of an engine where the activation of rules stopped at a fault: the same rules are known, the
configuration is the new one, and the active rules are those that it makes of the known ones before the
first that it spoils, without those that it turns off.
-/
structure Stopped (e : Engine) (c : Config) (after : Engine) : Prop where
  specs : after.specs = e.specs
  config : after.config = some c
  active : ∃ done spec rest, e.specs.map (·.2) = done ++ spec :: rest ∧
    (∀ known ∈ done, ¬ c.Spoils known) ∧ c.Spoils spec ∧
    List.Forall₂
      (fun known entry => entry.1 = known.id ∧ entry.2.Follows known (c.rules.get? known.id))
      (done.filter fun known => !(c.rules.get? known.id).any Setting.isOff) after.active

/-! ### Activation up to a fault -/

theorem activate_cons {c : Config} {spec : RuleSpec} {made : Option Rule}
    (h : resolve c spec = .ok made) (active : Table Rule) (specs : List RuleSpec)
    : activate c active (spec :: specs) =
        activate c (made.elim active (active.put spec.id)) specs := by
  rw [activate]
  rw [h]
  cases made with
  | none => rfl
  | some r => rfl

theorem activate_stopped {c : Config} {active : Table Rule} {specs : List RuleSpec} {f : Fault}
    (h : (activate c active specs).2 = some f)
    : ∃ done spec rest, specs = done ++ spec :: rest ∧ resolve c spec = .error f ∧
        (activate c active done).2 = none ∧
        (activate c active specs).1 = (activate c active done).1 := by
  induction specs generalizing active with
  | nil => cases h
  | cons spec specs ih =>
    cases hres : resolve c spec with
    | error f' =>
      rw [activate] at h ⊢
      rw [hres] at h ⊢
      cases h
      exact ⟨[], spec, specs, rfl, hres, rfl, rfl⟩
    | ok made =>
      rw [activate_cons hres] at h ⊢
      rcases ih h with ⟨done, fault, rest, hspecs, hfault, hnone, hactive⟩
      refine ⟨spec :: done, fault, rest, ?_, hfault, ?_, ?_⟩
      . rw [hspecs]
        rfl
      . rw [activate_cons hres]
        exact hnone
      . rw [activate_cons hres]
        exact hactive

theorem stopped_of_activate {e : Engine} (hids : ((e.specs.map (·.2)).map (·.id)).Nodup) {c : Config}
    (hwell : ∀ id s, c.rules.get? id = some s → s.options.WellFormed) {f : Fault}
    (h : (activate c [] (e.specs.map (·.2))).2 = some f)
    : e.Stopped c
        { e with active := (activate c [] (e.specs.map (·.2))).1, config := some c } := by
  rcases activate_stopped h with ⟨done, spec, rest, hspecs, hfault, hnone, hactive⟩
  refine ⟨rfl, rfl, done, spec, rest, hspecs, ?_, ?_, ?_⟩
  . intro known hknown hspoils
    rcases resolve_eq_error_iff.mpr hspoils with ⟨f', hf'⟩
    rcases activate_eq_none_iff.mp hnone known hknown with ⟨r, hr⟩
    rw [hf'] at hr
    cases hr
  . exact resolve_eq_error_iff.mp ⟨f, hfault⟩
  . have hdone : (done.map (·.id)).Nodup := by
      rw [hspecs, List.map_append] at hids
      exact (List.nodup_append.mp hids).1
    rcases activate_held hdone (by simp [Table.names]) hnone with ⟨held, hheld, hall⟩
    dsimp only
    rw [hactive, hheld, List.nil_append]
    refine hall.imp ?_
    rintro known entry ⟨hid, hres⟩
    exact ⟨hid, follows_of_resolve (hwell known.id) hres⟩

theorem usePreset_failed {e : Engine} {name : Value} {f : Fault} (h : (e.usePreset name).2 = some f)
    : (e.usePreset name).1 = e := by
  unfold usePreset use at h ⊢
  split at h
  . next c hc =>
    rcases Config.ofPresetValue_eq_ok hc with ⟨known, hknown⟩
    have hnone := activate_preset_eq_none hknown [] (e.specs.map (·.2))
    have hsome : (activate c [] (e.specs.map (·.2))).2 = some f := h
    rw [hnone] at hsome
    cases hsome
  . rfl

/--
An engine after a call that was to give it another configuration and stopped at a fault. A preset leaves it
as it was, and so does what cannot be loaded. What can be loaded and spoils a known rule leaves the new
configuration, and of the rules those that come before.
-/
theorem failed_reconfiguration_leaves (operations : List Operation)
    : let e := run operations
      (∀ name f, (e.usePreset name).2 = some f → (e.usePreset name).1 = e) ∧
      ∀ formats files path folder f, (e.loadConfig formats files path folder).2 = some f →
        (Config.load formats files path folder = .error f ∧ (e.loadConfig formats files path folder).1 = e) ∨
        ∃ c, Config.load formats files path folder = .ok c ∧
          e.Stopped c (e.loadConfig formats files path folder).1 := by
  intro e
  refine ⟨fun name f h => usePreset_failed h, ?_⟩
  intro formats files path folder f h
  unfold loadConfig use at h ⊢
  cases hload : Config.load formats files path folder with
  | error f' =>
    rw [hload] at h
    exact Or.inl ⟨by simpa using h, rfl⟩
  | ok c =>
    rw [hload] at h
    refine Or.inr ⟨c, rfl, ?_⟩
    exact stopped_of_activate (run_known_nodup operations)
      (fun id s hs => Config.load_wellFormed hload hs) h

-- A file that spoils one of the rules of the library by a severity that there is not.
def loudText : List Char :=
  "\x7b\"rules\": \x7b\"complexity/max-params\": \"loud\"\x7d\x7d".toList

def loudFiles : Files.Store where
  entries := [(["lint.json"], .file (loudText.map Char.toNat))]

def loudObject : Table Value := [("rules", .object [("complexity/max-params", .text "loud")])]

theorem source?_loudFiles
    : Config.source? {} loudFiles (some "lint.json") none = .ok (some (.object loudObject)) := by
  have hread : Json.read (String.ofList loudText) = .ok (.object loudObject) := by
    have hskip : Json.skipBlanks loudText = loudText := by decide +kernel
    unfold Json.read
    rw [String.toList_ofList, hskip]
    unfold loudText
    rw [String.toList_ofList]
    rfl
  exact Config.source?_json (by decide) (by decide +kernel) (by decide +kernel) hread

theorem loadConfig_loudFiles_fault
    : ((run [.registerBuiltin, .usePreset (.text "strict")]).loadConfig {} loudFiles
        (some "lint.json") none).2 = some (.severityName "LOUD") := by
  rw [loadConfig_eq source?_loudFiles rfl]
  decide +kernel

/--
Of eight rules that were active two are left, and these are not as they were.
-/
theorem loadConfig_loudFiles_changes
    : let e := run [.registerBuiltin, .usePreset (.text "strict")]
      let after := e.loadConfig {} loudFiles (some "lint.json") none
      after.2 = some (.severityName "LOUD") ∧
        e.active.map (fun entry => (entry.1, entry.2.severity)) =
          builtinRules.map (fun spec => (spec.id, .error)) ∧
        after.1.active.map (fun entry => (entry.1, entry.2.severity)) =
          [("complexity/max-complexity", .warn), ("complexity/max-function-lines", .warn)] ∧
        after.1.config ≠ e.config := by
  intro e after
  have hafter : after = _ := loadConfig_eq source?_loudFiles rfl e
  refine ⟨loadConfig_loudFiles_fault, by decide +kernel, ?_, ?_⟩
  . rw [hafter]
    decide +kernel
  . rw [hafter]
    intro h
    have hnames := congrArg (fun c => c.map fun c : Config => c.rules.names) h
    revert hnames
    decide +kernel

theorem failed_reconfiguration_leaves_loudFiles
    : let e := run [.registerBuiltin, .usePreset (.text "strict")]
      let after := e.loadConfig {} loudFiles (some "lint.json") none
      ((e.usePreset (.list [])).2 = some (.misuse (.noKey "list")) ∧ (e.usePreset (.list [])).1 = e) ∧
        after.2 = some (.severityName "LOUD") ∧
        ∃ c, Config.load {} loudFiles (some "lint.json") none = .ok c ∧ e.Stopped c after.1 := by
  have hleaves := failed_reconfiguration_leaves [.registerBuiltin, .usePreset (.text "strict")]
  refine ⟨⟨rfl, hleaves.1 _ _ rfl⟩, loadConfig_loudFiles_fault, ?_⟩
  rcases hleaves.2 _ _ _ _ _ loadConfig_loudFiles_fault with ⟨hload, _⟩ | hstopped
  . rw [Config.load_eq, source?_loudFiles] at hload
    cases hload
  . exact hstopped

end Engine

end CodeAudit.Lint
