import CodeAudit.Proofs.Activation
import CodeAudit.Proofs.Naming

/-!
This module contains the states that an engine can come to, by whatever operations in whatever order and
also where they stop at a fault, and what holds in all of them.
-/

namespace CodeAudit.Lint

/--
What can be done with an engine.
-/
inductive Operation where
  | register (spec : RuleSpec)
  | registerBuiltin
  | loadConfig (formats : Config.Formats) (files : Files.Store) (path folder : Option String)
  | usePreset (name : Value)
  | apply
  | configureRule (id : String) (severity : Option Severity) (options : Value)
  | lint (o : Outline)
  | lintFile (w : Workspace) (path : String)
  | lintFiles (w : Workspace) (paths : List String)
  | lintFolder (w : Workspace) (folder : String) (recursive : Bool) (endings : Option Value)

namespace Engine

/--
The fault of a computation that only looks at the engine.
-/
def faultOf {α : Type} : Except Fault α → Option Fault
  | .ok _ => none
  | .error f => some f

/--
Do something with an engine: the state in which it is left, and the fault if there is one.
-/
def perform (e : Engine) : Operation → Engine × Option Fault
  | .register spec => (e.register spec, none)
  | .registerBuiltin => (e.registerBuiltin, none)
  | .loadConfig formats files path folder => e.loadConfig formats files path folder
  | .usePreset name => e.usePreset name
  | .apply => e.apply
  | .configureRule id severity options =>
    match e.configureRule id severity options with
    | .ok e => (e, none)
    | .error f => (e, some f)
  | .lint o => (e, faultOf (e.lint o))
  | .lintFile w path => (e, faultOf (e.lintFile w path))
  | .lintFiles w paths => (e, faultOf (e.lintFiles w paths))
  | .lintFolder w folder recursive endings => (e, faultOf (e.lintFolder w folder recursive endings))

/--
The state of a new engine after operations one after the other. A fault stops its own operation only.
-/
def run (operations : List Operation) : Engine :=
  operations.foldl (fun e operation => (e.perform operation).1) {}

end Engine

/-! ### The invariant -/

/--
A rule as it may be active under a name: the name is its own, it is off only if it is off from the
start, and it has all options that it has from the start.
-/
structure Rule.Sound (id : String) (r : Rule) : Prop where
  id_eq : r.spec.id = id
  off : r.severity = .off → r.spec.defaultSeverity = .off
  options : ∀ name ∈ r.spec.defaultOptions.names, name ∈ r.options.names

/--
A state in which no name is active twice, all active names are known, and every active rule is sound.
-/
structure Engine.Sound (e : Engine) : Prop where
  nodup : e.active.names.Nodup
  known : ∀ id ∈ e.active.names, id ∈ e.specs.names
  rules : ∀ entry ∈ e.active, entry.2.Sound entry.1
  ids : ∀ entry ∈ e.specs, entry.2.id = entry.1

namespace Engine

theorem standard_sound (spec : RuleSpec) : spec.standard.Sound spec.id := by
  constructor
  . rfl
  . exact id
  . intro name hname
    exact hname

theorem configure_sound {spec : RuleSpec} {severity : Option Severity} {options : Value} {r : Rule}
    (hon : severity ≠ some .off) (h : spec.configure severity options = .ok r)
    : r.Sound spec.id := by
  rcases configure_eq_ok_iff.mp h with ⟨given, _, rfl⟩
  constructor
  . rfl
  . dsimp only
    intro hoff
    cases severity with
    | none => exact hoff
    | some s =>
      rw [Option.getD_some] at hoff
      rw [hoff] at hon
      exact absurd rfl hon
  . intro name hname
    exact Table.mem_names_overlay.mpr (Or.inl hname)

theorem resolve_sound {c : Config} {spec : RuleSpec} {r : Rule} (h : resolve c spec = .ok (some r))
    : r.Sound spec.id := by
  rcases resolve_eq_some h with ⟨_, rfl⟩ | ⟨s, severity, _, _, hon, hr⟩
  . exact standard_sound spec
  . apply configure_sound _ hr
    simpa using hon

/-! ### One operation -/

theorem register_sound {e : Engine} (he : e.Sound) (spec : RuleSpec) : (e.register spec).Sound := by
  constructor
  . exact he.nodup
  . intro id hid
    exact Table.mem_names_put.mpr (Or.inr (he.known id hid))
  . exact he.rules
  . intro entry hentry
    cases Table.mem_put hentry with
    | inl heq => rw [heq]
    | inr hmem => exact he.ids entry hmem

theorem put_sound {e : Engine} (he : e.Sound) {id : String} (hid : id ∈ e.specs.names) {r : Rule}
    (hr : r.Sound id) : ({ e with active := e.active.put id r } : Engine).Sound := by
  constructor
  . exact Table.nodup_put he.nodup id r
  . intro other hother
    cases Table.mem_names_put.mp hother with
    | inl heq => rw [heq]; exact hid
    | inr hmem => exact he.known other hmem
  . intro entry hentry
    cases Table.mem_put hentry with
    | inl heq => rw [heq]; exact hr
    | inr hmem => exact he.rules entry hmem
  . exact he.ids

-- A fault leaves the rules active that were made before it, so what is shown is about every state that
-- the activation passes through, not only about its end.
theorem activate_sound {c : Config} {e : Engine} (he : e.Sound) {specs : List RuleSpec}
    (hspecs : ∀ spec ∈ specs, spec.id ∈ e.specs.names)
    : ({ e with active := (activate c e.active specs).1 } : Engine).Sound := by
  induction specs generalizing e with
  | nil => exact he
  | cons spec specs ih =>
    rw [List.forall_mem_cons] at hspecs
    unfold activate
    split
    . exact he
    . exact ih he hspecs.2
    . next r hres => exact ih (put_sound he hspecs.1 (resolve_sound hres)) hspecs.2

theorem apply_sound {e : Engine} (he : e.Sound) : e.apply.1.Sound := by
  unfold apply
  split
  . exact he
  . have hempty : ({ e with active := [] } : Engine).Sound := by
      constructor
      . exact List.nodup_nil
      . simp [Table.names]
      . simp
      . exact he.ids
    apply activate_sound hempty
    intro spec hspec
    rcases List.mem_map.mp hspec with ⟨entry, hentry, rfl⟩
    rw [he.ids entry hentry]
    exact Table.mem_names_of_mem hentry

theorem use_sound {e : Engine} (he : e.Sound) (c : Except Fault Config) : (e.use c).1.Sound := by
  unfold use
  split
  . apply apply_sound
    exact ⟨he.nodup, he.known, he.rules, he.ids⟩
  . exact he

theorem configureRule_sound {e e' : Engine} (he : e.Sound) {id : String} {severity : Option Severity}
    {options : Value} (h : e.configureRule id severity options = .ok e') : e'.Sound := by
  unfold configureRule at h
  split at h
  . cases h
  . next spec hspec =>
    have hmem : (id, spec) ∈ e.specs := Table.mem_of_get? hspec
    split at h
    . cases h
      constructor
      . exact Table.nodup_remove he.nodup id
      . intro other hother
        rw [Table.names_remove] at hother
        exact he.known other (List.mem_of_mem_filter hother)
      . intro entry hentry
        exact he.rules entry (List.mem_of_mem_filter hentry)
      . exact he.ids
    . next hon =>
      rcases bind_eq_ok_iff.mp h with ⟨r, hr, h⟩
      cases h
      apply put_sound he (Table.mem_names_of_mem hmem)
      have hid : spec.id = id := he.ids _ hmem
      rw [← hid]
      exact configure_sound hon hr

theorem perform_sound {e : Engine} (he : e.Sound) (operation : Operation)
    : (e.perform operation).1.Sound := by
  cases operation with
  | register spec => exact register_sound he spec
  | registerBuiltin =>
    unfold perform registerBuiltin
    dsimp only
    generalize builtinRules = specs
    induction specs generalizing e with
    | nil => exact he
    | cons spec specs ih => exact ih (register_sound he spec)
  | loadConfig formats files path folder => exact use_sound he _
  | usePreset name => exact use_sound he _
  | apply => exact apply_sound he
  | configureRule id severity options =>
    unfold perform
    dsimp only
    split
    . next h => exact configureRule_sound he h
    . exact he
  | lint o => exact he
  | lintFile w path => exact he
  | lintFiles w paths => exact he
  | lintFolder w folder recursive endings => exact he

/-! ### All operations -/

theorem foldl_perform_sound {e : Engine} (he : e.Sound) (operations : List Operation)
    : (operations.foldl (fun e operation => (e.perform operation).1) e).Sound := by
  induction operations generalizing e with
  | nil => exact he
  | cons operation operations ih => exact ih (perform_sound he operation)

theorem run_sound (operations : List Operation) : (run operations).Sound := by
  apply foldl_perform_sound
  constructor <;> simp [Table.names]

theorem builtinRules_not_off {spec : RuleSpec} (h : spec ∈ builtinRules)
    : spec.defaultSeverity ≠ .off := by
  rcases mem_builtinRules.mp h with rfl | rfl | rfl | rfl | rfl | rfl | rfl | rfl
  all_goals decide

/--
Every state that an engine can come to is sound. If all active rules come with the library, then all of
them run.
-/
theorem run_invariant (operations : List Operation)
    : (run operations).Sound ∧
      ((∀ entry ∈ (run operations).active, entry.2.spec ∈ builtinRules) →
        (run operations).enabledRules = (run operations).active.map (·.2)) := by
  have hsound := run_sound operations
  refine ⟨hsound, ?_⟩
  intro hbuiltin
  unfold enabledRules
  rw [List.filter_eq_self]
  intro r hr
  rcases List.mem_map.mp hr with ⟨entry, hentry, rfl⟩
  have hon := builtinRules_not_off (hbuiltin entry hentry)
  have hnot : entry.2.severity ≠ .off := fun hoff => hon ((hsound.rules entry hentry).off hoff)
  simpa [Rule.isEnabled] using hnot

/-! ### The known rules -/

theorem apply_specs (e : Engine) : e.apply.1.specs = e.specs := by
  unfold apply
  split
  . rfl
  . rfl

theorem use_specs (e : Engine) (c : Except Fault Config) : (e.use c).1.specs = e.specs := by
  unfold use
  split
  . rw [apply_specs]
  . rfl

theorem configureRule_specs {e e' : Engine} {id : String} {severity : Option Severity} {options : Value}
    (h : e.configureRule id severity options = .ok e') : e'.specs = e.specs := by
  unfold configureRule at h
  split at h
  . cases h
  . split at h
    . cases h
      rfl
    . rcases bind_eq_ok_iff.mp h with ⟨r, _, h⟩
      cases h
      rfl

theorem foldl_register_nodup {e : Engine} (he : e.specs.names.Nodup) (specs : List RuleSpec)
    : (specs.foldl register e).specs.names.Nodup := by
  induction specs generalizing e with
  | nil => exact he
  | cons spec specs ih => exact ih (Table.nodup_put he spec.id spec)

theorem perform_specs_nodup {e : Engine} (he : e.specs.names.Nodup) (operation : Operation)
    : (e.perform operation).1.specs.names.Nodup := by
  cases operation with
  | register spec => exact foldl_register_nodup he [spec]
  | registerBuiltin => exact foldl_register_nodup he builtinRules
  | loadConfig formats files path folder =>
    change (e.use (Config.load formats files path folder)).1.specs.names.Nodup
    rw [use_specs]
    exact he
  | usePreset name =>
    change (e.use (Config.ofPresetValue name)).1.specs.names.Nodup
    rw [use_specs]
    exact he
  | apply =>
    change e.apply.1.specs.names.Nodup
    rw [apply_specs]
    exact he
  | configureRule id severity options =>
    unfold perform
    dsimp only
    split
    . next h =>
      rw [configureRule_specs h]
      exact he
    . exact he
  | lint o => exact he
  | lintFile w path => exact he
  | lintFiles w paths => exact he
  | lintFolder w folder recursive endings => exact he

theorem foldl_perform_specs_nodup {e : Engine} (he : e.specs.names.Nodup) (operations : List Operation)
    : (operations.foldl (fun e operation => (e.perform operation).1) e).specs.names.Nodup := by
  induction operations generalizing e with
  | nil => exact he
  | cons operation operations ih => exact ih (perform_specs_nodup he operation)

/--
No two rules that are known to an engine have one name.
-/
theorem run_known_nodup (operations : List Operation)
    : (((run operations).specs.map (·.2)).map (·.id)).Nodup := by
  have hids : ((run operations).specs.map (·.2)).map (·.id) = (run operations).specs.names := by
    unfold Table.names
    rw [List.map_map]
    apply List.map_congr_left
    intro entry hentry
    exact (run_sound operations).ids entry hentry
  rw [hids]
  apply foldl_perform_specs_nodup
  exact List.nodup_nil

end Engine

end CodeAudit.Lint
