import CodeAudit.Lint.Engine
import CodeAudit.Proofs.Config
import CodeAudit.Proofs.Severity
import Mathlib.Data.List.Forall2

/-!
This module contains what the activation of known rules comes to: which rules are active after a
configuration was loaded, with what severity and options, and when loading stops at a fault.
-/

namespace CodeAudit

theorem Value.Gives.nodup_names {v : Value} {given : Table Value} (h : v.Gives given)
    (hv : v.WellFormed) : given.names.Nodup := by
  cases h with
  | fields fields => exact hv.nodup_names
  | nothing => exact List.nodup_nil

namespace Lint

/-! ### One rule -/

/--
Whether a setting turns its rule off.
-/
def Setting.isOff (s : Setting) : Bool :=
  match Severity.ofValue s.severity with
  | .ok .off => true
  | _ => false

theorem Setting.isOff_iff {s : Setting} : s.isOff = true ↔ Severity.Reads s.severity .off := by
  rw [← Severity.ofValue_eq_ok_iff]
  unfold isOff
  cases Severity.ofValue s.severity with
  | error f => simp
  | ok severity => cases severity <;> simp

/--
A setting from which no rule can be made: its severity cannot be read, or the rule is not off and the
options give nothing.
-/
def Setting.Faulty (s : Setting) : Prop :=
  Severity.Unreadable s.severity ∨ (¬ Severity.Reads s.severity .off ∧ s.options.Optionless)

/--
A rule that is made of a known one as a setting says. Each option is that of the setting, or else that
which the rule has from the start. Without a setting all is as it is from the start.
-/
def Rule.Follows (r : Rule) (spec : RuleSpec) : Option Setting → Prop
  | none => r.spec = spec ∧ r.severity = spec.defaultSeverity ∧ r.options = spec.defaultOptions
  | some s =>
    r.spec = spec ∧ Severity.Reads s.severity r.severity ∧
      ∃ given, s.options.Gives given ∧
        ∀ name, r.options.get? name = (given.get? name).or (spec.defaultOptions.get? name)

namespace Engine

theorem configure_eq_error_iff {spec : RuleSpec} {severity : Option Severity} {options : Value}
    : (∃ f, spec.configure severity options = .error f) ↔ options.Optionless := by
  rw [← Value.givenOptions_eq_error_iff]
  unfold RuleSpec.configure
  cases options.givenOptions with
  | error m => simp [orFault, bind, Except.bind]
  | ok given => simp [orFault, bind, Except.bind, pure, Except.pure]

theorem configure_eq_ok_iff {spec : RuleSpec} {severity : Option Severity} {options : Value} {r : Rule}
    : spec.configure severity options = .ok r ↔
        ∃ given, options.Gives given ∧
          r = ⟨spec, severity.getD spec.defaultSeverity, spec.defaultOptions.overlay given⟩ := by
  unfold RuleSpec.configure
  rw [bind_eq_ok_iff]
  simp only [orFault_eq_ok_iff, Value.givenOptions_eq_ok_iff]
  constructor
  . rintro ⟨given, hgiven, hr⟩
    cases hr
    exact ⟨given, hgiven, rfl⟩
  . rintro ⟨given, hgiven, rfl⟩
    exact ⟨given, hgiven, rfl⟩

theorem resolve_unset {c : Config} {spec : RuleSpec} (h : c.rules.get? spec.id = none)
    : resolve c spec = .ok (some spec.standard) := by
  unfold resolve
  rw [h]
  rfl

theorem resolve_off {c : Config} {spec : RuleSpec} {s : Setting} (h : c.rules.get? spec.id = some s)
    (hoff : Severity.Reads s.severity .off) : resolve c spec = .ok none := by
  unfold resolve
  rw [h]
  dsimp only
  rw [Severity.ofValue_eq_ok_iff.mpr hoff]
  rfl

theorem resolve_on {c : Config} {spec : RuleSpec} {s : Setting} (h : c.rules.get? spec.id = some s)
    {severity : Severity} (hread : Severity.Reads s.severity severity) (hon : severity ≠ .off)
    : resolve c spec = (spec.configure (some severity) s.options).map some := by
  unfold resolve
  rw [h]
  dsimp only
  rw [Severity.ofValue_eq_ok_iff.mpr hread]
  cases severity with
  | off => exact absurd rfl hon
  | warn =>
    dsimp only [bind, Except.bind]
    cases spec.configure (some .warn) s.options <;> rfl
  | error =>
    dsimp only [bind, Except.bind]
    cases spec.configure (some .error) s.options <;> rfl

theorem resolve_unreadable {c : Config} {spec : RuleSpec} {s : Setting}
    (h : c.rules.get? spec.id = some s) (hbad : Severity.Unreadable s.severity)
    : ∃ f, resolve c spec = .error f := by
  rcases Severity.ofValue_eq_error_iff.mpr hbad with ⟨f, hf⟩
  refine ⟨f, ?_⟩
  unfold resolve
  rw [h]
  dsimp only
  rw [hf]
  rfl

/--
All that can come of a known rule under a configuration.
-/
theorem resolve_cases (c : Config) (spec : RuleSpec)
    : (c.rules.get? spec.id = none ∧ resolve c spec = .ok (some spec.standard)) ∨
      ∃ s, c.rules.get? spec.id = some s ∧
        ((Severity.Unreadable s.severity ∧ ∃ f, resolve c spec = .error f) ∨
          (Severity.Reads s.severity .off ∧ resolve c spec = .ok none) ∨
          ∃ severity, Severity.Reads s.severity severity ∧ severity ≠ .off ∧
            resolve c spec = (spec.configure (some severity) s.options).map some) := by
  cases h : c.rules.get? spec.id with
  | none => exact Or.inl ⟨rfl, resolve_unset h⟩
  | some s =>
    refine Or.inr ⟨s, rfl, ?_⟩
    cases hread : Severity.ofValue s.severity with
    | error f =>
      have hbad := Severity.ofValue_eq_error_iff.mp ⟨f, hread⟩
      exact Or.inl ⟨hbad, resolve_unreadable h hbad⟩
    | ok severity =>
      have hgood := Severity.ofValue_eq_ok_iff.mp hread
      refine Or.inr ?_
      by_cases hoff : severity = .off
      . rw [hoff] at hgood
        exact Or.inl ⟨hgood, resolve_off h hgood⟩
      . exact Or.inr ⟨severity, hgood, hoff, resolve_on h hgood hoff⟩

theorem resolve_eq_error_iff {c : Config} {spec : RuleSpec}
    : (∃ f, resolve c spec = .error f) ↔ ∃ s, c.rules.get? spec.id = some s ∧ s.Faulty := by
  rcases resolve_cases c spec with ⟨hget, hres⟩ | ⟨s, hget, hrest⟩
  . simp [hget, hres]
  . simp only [hget, Option.some.injEq, exists_eq_left']
    unfold Setting.Faulty
    rcases hrest with ⟨hbad, hres⟩ | ⟨hoff, hres⟩ | ⟨severity, hread, hon, hres⟩
    . exact ⟨fun _ => Or.inl hbad, fun _ => hres⟩
    . have hgood : ¬ Severity.Unreadable s.severity := Severity.not_unreadable hoff
      simp [hres, hoff, hgood]
    . have hgood : ¬ Severity.Unreadable s.severity := Severity.not_unreadable hread
      have hnot : ¬ Severity.Reads s.severity .off := fun hoff => hon (hread.unique hoff)
      rw [hres, ← @configure_eq_error_iff spec (some severity)]
      cases spec.configure (some severity) s.options <;> simp [Except.map, hgood, hnot]

theorem resolve_eq_none_iff {c : Config} {spec : RuleSpec}
    : resolve c spec = .ok none ↔ ∃ s, c.rules.get? spec.id = some s ∧ s.isOff = true := by
  rcases resolve_cases c spec with ⟨hget, hres⟩ | ⟨s, hget, hrest⟩
  . simp [hget, hres]
  . simp only [hget, Option.some.injEq, exists_eq_left', Setting.isOff_iff]
    rcases hrest with ⟨hbad, f, hres⟩ | ⟨hoff, hres⟩ | ⟨severity, hread, hon, hres⟩
    . have hnot : ¬ Severity.Reads s.severity .off := fun hoff => Severity.not_unreadable hoff hbad
      simp [hres, hnot]
    . simp [hres, hoff]
    . have hnot : ¬ Severity.Reads s.severity .off := fun hoff => hon (hread.unique hoff)
      rw [hres]
      cases spec.configure (some severity) s.options <;> simp [Except.map, hnot]

theorem resolve_eq_some {c : Config} {spec : RuleSpec} {r : Rule} (h : resolve c spec = .ok (some r))
    : (c.rules.get? spec.id = none ∧ r = spec.standard) ∨
      ∃ s severity, c.rules.get? spec.id = some s ∧ Severity.Reads s.severity severity ∧
        severity ≠ .off ∧ spec.configure (some severity) s.options = .ok r := by
  rcases resolve_cases c spec with ⟨hget, hres⟩ | ⟨s, hget, hrest⟩
  . rw [hres] at h
    cases h
    exact Or.inl ⟨hget, rfl⟩
  . rcases hrest with ⟨_, f, hres⟩ | ⟨_, hres⟩ | ⟨severity, hread, hon, hres⟩
    . rw [hres] at h
      cases h
    . rw [hres] at h
      cases h
    . rw [hres] at h
      rcases map_eq_ok_iff.mp h with ⟨r', hr, hsome⟩
      cases hsome
      exact Or.inr ⟨s, severity, hget, hread, hon, hr⟩

theorem follows_of_resolve {c : Config} {spec : RuleSpec} {r : Rule}
    (hwell : ∀ s, c.rules.get? spec.id = some s → s.options.WellFormed)
    (h : resolve c spec = .ok (some r)) : r.Follows spec (c.rules.get? spec.id) := by
  rcases resolve_eq_some h with ⟨hget, rfl⟩ | ⟨s, severity, hget, hread, _, hr⟩
  . rw [hget]
    exact ⟨rfl, rfl, rfl⟩
  . rw [hget]
    rcases configure_eq_ok_iff.mp hr with ⟨given, hgiven, rfl⟩
    refine ⟨rfl, hread, given, hgiven, ?_⟩
    intro name
    exact Table.get?_overlay _ (hgiven.nodup_names (hwell s hget)) name

/-! ### All rules -/

theorem activate_eq_none_iff {c : Config} {active : Table Rule} {specs : List RuleSpec}
    : (activate c active specs).2 = none ↔ ∀ spec ∈ specs, ∃ r, resolve c spec = .ok r := by
  induction specs generalizing active with
  | nil => simp [activate]
  | cons spec specs ih =>
    unfold activate
    rw [List.forall_mem_cons]
    split
    . next f hres => simp [hres]
    . next hres => simp [hres, ih]
    . next r hres => simp [hres, ih]

theorem not_any_isOff {c : Config} {spec : RuleSpec} {r : Rule} (h : resolve c spec = .ok (some r))
    : (c.rules.get? spec.id).any Setting.isOff = false := by
  rw [Bool.eq_false_iff]
  intro hoff
  rw [Option.any_eq_true] at hoff
  rw [resolve_eq_none_iff.mpr hoff] at h
  cases h

/--
If no fault stops the activation, the known rules that are not turned off become active in their order
behind those that were active before.
-/
theorem activate_held {c : Config} {active : Table Rule} {specs : List RuleSpec}
    (hids : (specs.map (·.id)).Nodup) (hnew : ∀ spec ∈ specs, spec.id ∉ active.names)
    (hnone : (activate c active specs).2 = none)
    : ∃ held, (activate c active specs).1 = active ++ held ∧
        List.Forall₂ (fun spec entry => entry.1 = spec.id ∧ resolve c spec = .ok (some entry.2))
          (specs.filter fun spec => !(c.rules.get? spec.id).any Setting.isOff) held := by
  induction specs generalizing active with
  | nil => exact ⟨[], by simp [activate], .nil⟩
  | cons spec specs ih =>
    rcases List.nodup_cons.mp hids with ⟨hid, hrest⟩
    rw [List.forall_mem_cons] at hnew
    unfold activate at hnone ⊢
    split at hnone
    . cases hnone
    . next hres =>
      rcases ih hrest hnew.2 hnone with ⟨held, hheld, hall⟩
      have hoff := Option.any_eq_true _ _ |>.mpr (resolve_eq_none_iff.mp hres)
      refine ⟨held, hheld, ?_⟩
      rw [List.filter_cons_of_neg (by simpa using hoff)]
      exact hall
    . next r hres =>
      have hfresh : ∀ other ∈ specs, other.id ∉ (active.put spec.id r).names := by
        intro other hother
        rw [Table.mem_names_put]
        rintro (heq | hmem)
        . apply hid
          exact List.mem_map.mpr ⟨other, hother, heq⟩
        . exact hnew.2 other hother hmem
      rcases ih hrest hfresh hnone with ⟨held, hheld, hall⟩
      refine ⟨(spec.id, r) :: held, ?_, ?_⟩
      . rw [hheld, Table.put_of_not_mem hnew.1]
        simp
      . rw [List.filter_cons_of_pos (by simpa using not_any_isOff hres)]
        exact .cons ⟨rfl, hres⟩ hall

theorem builtinRules_nodup : (builtinRules.map (·.id)).Nodup := by
  simp [builtinRules, maxComplexity, maxFunctionLines, maxParams, functionNaming, classNaming,
    maxFileLines, maxClassesPerFile, maxFunctionsPerFile]

theorem foldl_register_specs {specs : List RuleSpec} {e : Engine} (hids : (specs.map (·.id)).Nodup)
    (hnew : ∀ spec ∈ specs, spec.id ∉ e.specs.names)
    : (specs.foldl register e).specs = e.specs ++ specs.map fun spec => (spec.id, spec) := by
  induction specs generalizing e with
  | nil => simp
  | cons spec specs ih =>
    rcases List.nodup_cons.mp hids with ⟨hid, hrest⟩
    rw [List.forall_mem_cons] at hnew
    have hput : (e.register spec).specs = e.specs ++ [(spec.id, spec)] :=
      Table.put_of_not_mem hnew.1 spec
    rw [List.foldl_cons, ih hrest]
    . rw [hput]
      simp
    . intro other hother
      rw [hput]
      simp only [Table.names, List.map_append, List.mem_append, not_or]
      refine ⟨hnew.2 other hother, ?_⟩
      intro hmem
      apply hid
      rw [← List.mem_singleton.mp hmem]
      exact List.mem_map_of_mem hother

theorem map_register_specs {specs : List RuleSpec} (hids : (specs.map (·.id)).Nodup)
    : (specs.foldl register {}).specs.map (·.2) = specs := by
  rw [foldl_register_specs hids (by simp [Table.names])]
  simp [Function.comp_def]

theorem loadConfig_eq {formats : Config.Formats} {files : Files.Store} {path folder : Option String} {v : Value}
    {c : Config} (hsource : Config.source? formats files path folder = .ok (some v)) (hc : Config.ofValue v = .ok c)
    (e : Engine)
    : e.loadConfig formats files path folder
        =
      ({ e with active := (activate c [] (e.specs.map (·.2))).1, config := some c },
        (activate c [] (e.specs.map (·.2))).2) := by
  unfold loadConfig
  rw [Config.load_eq, hsource]
  dsimp only [bind, Except.bind]
  rw [hc]
  rfl

/-! ### The rules that a configuration activates -/

/--
What becomes of known rules if the presets `names` and `entries` decide about them: those that are turned off are left
out, and each of the others is active in its turn and follows what decides about it.
-/
inductive Activates (names : List String) (entries : Table Value) : List RuleSpec → Table Rule → Prop where
  | nil : Activates names entries [] []
  | off {spec : RuleSpec} {specs : List RuleSpec} {active : Table Rule} {s : Setting}
    (hdecides : Config.Decides names entries spec.id (some s)) (hoff : Severity.Reads s.severity .off)
    (hrest : Activates names entries specs active) : Activates names entries (spec :: specs) active
  | on {spec : RuleSpec} {specs : List RuleSpec} {active : Table Rule} {d : Option Setting} {r : Rule}
    (hdecides : Config.Decides names entries spec.id d) (hon : ∀ s ∈ d, ¬ Severity.Reads s.severity .off)
    (hfollows : r.Follows spec d) (hrest : Activates names entries specs active)
    : Activates names entries (spec :: specs) ((spec.id, r) :: active)

theorem activates_of_held {c : Config} {names : List String} {entries : Table Value} {specs : List RuleSpec}
    {held : Table Rule} (hentries : (Value.object entries).WellFormed)
    (hdecides : ∀ id, Config.Decides names entries id (c.rules.get? id))
    (hall : List.Forall₂ (fun spec entry => entry.1 = spec.id ∧ resolve c spec = .ok (some entry.2))
      (specs.filter fun spec => !(c.rules.get? spec.id).any Setting.isOff) held)
    : Activates names entries specs held := by
  induction specs generalizing held with
  | nil =>
    cases hall
    exact .nil
  | cons spec specs ih =>
    by_cases hoff : (c.rules.get? spec.id).any Setting.isOff = true
    . rw [List.filter_cons_of_neg (by simpa using hoff)] at hall
      rcases (Option.any_eq_true _ _).mp hoff with ⟨s, hs, hoff⟩
      exact .off (hs ▸ hdecides spec.id) (Setting.isOff_iff.mp hoff) (ih hall)
    . rw [List.filter_cons_of_pos (by simpa using hoff)] at hall
      cases hall with
      | @cons _ entry _ rest hentry hrest =>
        rcases entry with ⟨id, r⟩
        rcases hentry with ⟨rfl, hres⟩
        refine .on (hdecides spec.id) ?_ (follows_of_resolve ?_ hres) (ih hrest)
        . intro s hs hreads
          exact hoff ((Option.any_eq_true _ _).mpr ⟨s, hs, Setting.isOff_iff.mpr hreads⟩)
        . intro s hs
          exact (hs ▸ hdecides spec.id).options_wellFormed hentries

/--
Let the rules `specs`, no two of one name, be known to an engine in any state, and let an object be
loaded that extends the presets `names` and has `entries` for rules. One thing decides about each rule. Loading stops
at a fault exactly if what decides about a known rule is faulty. If it does not, the active rules are the known ones in
their order, without those that are turned off, and each follows what decides about it.
-/
theorem loadConfig_follows_deciding {formats : Config.Formats} {files : Files.Store} {path folder : Option String}
    {object entries : Table Value} {names : List String} {specs : List RuleSpec} {e : Engine}
    (hids : (specs.map (·.id)).Nodup) (hspecs : e.specs = (specs.foldl register {}).specs)
    (hsource : Config.source? formats files path folder = .ok (some (.object object)))
    (hnames : Config.Extends object names) (hentries : Config.HasEntries object entries)
    : (∀ id, ∃! d, Config.Decides names entries id d) ∧
      ((e.loadConfig formats files path folder).2 = none →
        Activates names entries specs (e.loadConfig formats files path folder).1.active) ∧
      ((e.loadConfig formats files path folder).2 ≠ none ↔
        ∃ spec ∈ specs, ∃ s, Config.Decides names entries spec.id (some s) ∧ s.Faulty) := by
  have hobject := Config.source?_wellFormed hsource
  have hwell := Config.wellFormed_entries hobject hentries
  rcases Config.ofValue_object hobject hnames hentries with ⟨c, hc, hdecides⟩
  have hunique : ∀ id d, Config.Decides names entries id d ↔ c.rules.get? id = d := by
    intro id d
    rw [Config.decides_iff, Config.decides_iff.mp (hdecides id)]
  have hknown : e.specs.map (·.2) = specs := by
    rw [hspecs, foldl_register_specs hids (by simp [Table.names])]
    simp [Function.comp_def]
  rw [loadConfig_eq hsource hc, hknown]
  dsimp only
  refine ⟨?_, ?_, ?_⟩
  . intro id
    simp only [hunique]
    exact existsUnique_eq'
  . intro hnone
    rcases activate_held hids (by simp [Table.names]) hnone with ⟨held, hheld, hall⟩
    rw [hheld, List.nil_append]
    exact activates_of_held hwell hdecides hall
  . rw [ne_eq, activate_eq_none_iff]
    simp only [hunique, ← resolve_eq_error_iff]
    push Not
    constructor
    . rintro ⟨spec, hspec, hno⟩
      refine ⟨spec, hspec, ?_⟩
      cases hres : resolve c spec with
      | error f => exact ⟨f, rfl⟩
      | ok r => exact absurd hres (hno r)
    . rintro ⟨spec, hspec, f, hf⟩
      refine ⟨spec, hspec, ?_⟩
      intro r
      rw [hf]
      simp

-- A file in which two presets and an entry speak about the rules that come with the library.
def layeredText : List Char :=
  "\x7b\"extends\": [\"strict\", \"minimal\"], ".toList ++
    "\"rules\": \x7b\"naming/class-naming\": \"off\"\x7d\x7d".toList

def layeredFiles : Files.Store where
  entries := [(["lint.json"], .file (layeredText.map Char.toNat))]

def layeredEntries : Table Value := [("naming/class-naming", .text "off")]

def layeredObject : Table Value :=
  [("extends", .list (["strict", "minimal"].map .text)), ("rules", .object layeredEntries)]

theorem source?_layeredFiles
    : Config.source? {} layeredFiles (some "lint.json") none = .ok (some (.object layeredObject)) := by
  have hsuffix : (Files.Path.ofString "lint.json").suffix = ".json" := by decide +kernel
  have htext : layeredFiles.readText (Files.Path.ofString "lint.json").toString = .ok layeredText := by
    decide +kernel
  have hread : Json.read (String.ofList layeredText) = .ok (.object layeredObject) := by
    have hskip : Json.skipBlanks layeredText = layeredText := by decide +kernel
    unfold Json.read
    rw [String.toList_ofList, hskip]
    unfold layeredText
    rw [String.toList_ofList, String.toList_ofList]
    rfl
  unfold Config.source?
  rw [Option.filter_some_pos (by decide)]
  unfold Config.fileValue
  simp only [hsuffix, htext, Config.orFileFault, bind, Except.bind, hread]
  rfl

theorem loadConfig_follows_deciding_layered
    : let result := (registerBuiltin {}).loadConfig {} layeredFiles (some "lint.json") none
      result.2 = none ∧ Activates ["strict", "minimal"] layeredEntries builtinRules result.1.active := by
  have hall := loadConfig_follows_deciding (e := registerBuiltin {}) builtinRules_nodup rfl
    source?_layeredFiles (.several rfl) (.given rfl)
  have hnone : ((registerBuiltin {}).loadConfig {} layeredFiles (some "lint.json") none).2 = none := by
    rw [loadConfig_eq source?_layeredFiles rfl]
    decide +kernel
  exact ⟨hnone, hall.2.1 hnone⟩

end Engine

end Lint

end CodeAudit
