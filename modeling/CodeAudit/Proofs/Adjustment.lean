import CodeAudit.Proofs.Reachable

/-!
This module contains what the configuration of a single rule does to an engine. Where it stops at a fault the engine is
as it was. Where it does not, one entry among the active rules is another, and what stands there depends on the known
rule and on what was asked for, not on what stood there before.
-/

namespace CodeAudit.Lint

/--
A rule that is made of a known one: its severity is the one that was given, or else the one that it has from the start,
and so is each of its options.
-/
structure Rule.MadeOf (r : Rule) (spec : RuleSpec) (severity : Option Severity) (options : Value) : Prop where
  spec_eq : r.spec = spec
  severity_eq : r.severity = severity.getD spec.defaultSeverity
  options_eq : ∃ given, options.Gives given ∧ r.options = spec.defaultOptions.overlay given ∧
    (given.names.Nodup → ∀ name, r.options.get? name = (given.get? name).or (spec.defaultOptions.get? name))

namespace Engine

/--
The rule cannot be configured so: no rule of the name is known, or the rule is to be on and the options give nothing.
-/
def Refuses (e : Engine) (id : String) (severity : Option Severity) (options : Value) : Prop :=
  id ∉ e.specs.names ∨ (severity ≠ some .off ∧ options.Optionless)

/--
An engine in which one rule is configured anew. The known rules, the configuration and the other active rules are the
same, and these are in the same order. The rule is not active if it is off, and is made of the known one if it is on.
-/
structure Adjusted (e : Engine) (id : String) (severity : Option Severity) (options : Value) (after : Engine)
    : Prop where
  specs : after.specs = e.specs
  config : after.config = e.config
  others : ∀ other, other ≠ id → after.active.get? other = e.active.get? other
  order : (after.active.filter fun entry => entry.1 != id) = e.active.filter fun entry => entry.1 != id
  off : severity = some .off → id ∉ after.active.names
  on : severity ≠ some .off →
    ∃ spec ∈ e.specs.get? id, ∃ r ∈ after.active.get? id, r.MadeOf spec severity options

variable {e : Engine} {id : String} {severity : Option Severity} {options : Value} {spec : RuleSpec}

/-! ### The four ways a call can go -/

theorem configure_optionless (spec : RuleSpec) (severity : Option Severity) (h : options.Optionless)
    : spec.configure severity options = .error (.misuse (.noFields options.kindName)) := by
  unfold RuleSpec.configure
  cases options with
  | object fields => exact absurd rfl (h.2 fields)
  | _ =>
    rw [Value.givenOptions, if_pos h.1]
    . rfl
    . simp

theorem configureRule_unknown (h : id ∉ e.specs.names) (severity : Option Severity) (options : Value)
    : e.configureRule id severity options = .error (.unknownRule id) := by
  unfold configureRule
  rw [(Table.get?_eq_none_iff _ _).mpr h]

theorem configureRule_optionless (h : e.specs.get? id = some spec) (hon : severity ≠ some .off)
    (hoptions : options.Optionless)
    : e.configureRule id severity options = .error (.misuse (.noFields options.kindName)) := by
  unfold configureRule
  rw [h]
  dsimp only
  rw [if_neg hon, configure_optionless spec severity hoptions]
  rfl

theorem configureRule_off (h : e.specs.get? id = some spec) (options : Value)
    : e.configureRule id (some .off) options = .ok { e with active := e.active.remove id } := by
  unfold configureRule
  rw [h]
  rfl

theorem configureRule_on (h : e.specs.get? id = some spec) (hon : severity ≠ some .off) {r : Rule}
    (hr : spec.configure severity options = .ok r)
    : e.configureRule id severity options = .ok { e with active := e.active.put id r } := by
  unfold configureRule
  rw [h]
  dsimp only
  rw [if_neg hon, hr]
  rfl

/-! ### What is left -/

theorem madeOf_of_configure {r : Rule} (h : spec.configure severity options = .ok r)
    : r.MadeOf spec severity options := by
  rcases configure_eq_ok_iff.mp h with ⟨given, hgiven, rfl⟩
  constructor
  . rfl
  . rfl
  . refine ⟨given, hgiven, rfl, ?_⟩
    intro hnodup name
    apply Table.get?_overlay _ hnodup

theorem configure_of_madeOf {r : Rule} (h : r.MadeOf spec severity options)
    : spec.configure severity options = .ok r := by
  rcases h.options_eq with ⟨given, hgiven, hoptions, _⟩
  rw [configure_eq_ok_iff]
  refine ⟨given, hgiven, ?_⟩
  rw [← h.severity_eq, ← hoptions, ← h.spec_eq]

theorem remove_adjusted (e : Engine) (id : String) (options : Value)
    : e.Adjusted id (some .off) options { e with active := e.active.remove id } := by
  constructor
  . rfl
  . rfl
  . intro other hother
    rw [Table.get?_remove, if_neg hother]
  . exact Table.remove_remove e.active id
  . intro _
    rw [← Table.get?_eq_none_iff, Table.get?_remove, if_pos rfl]
  . intro hon
    exact absurd rfl hon

theorem put_adjusted (h : e.specs.get? id = some spec) (hon : severity ≠ some .off) {r : Rule}
    (hr : spec.configure severity options = .ok r)
    : e.Adjusted id severity options { e with active := e.active.put id r } := by
  constructor
  . rfl
  . rfl
  . intro other hother
    rw [Table.get?_put, if_neg hother]
  . exact Table.remove_put e.active id r
  . intro hoff
    exact absurd hoff hon
  . intro _
    refine ⟨spec, h, r, ?_, madeOf_of_configure hr⟩
    rw [Option.mem_def, Table.get?_put, if_pos rfl]

theorem refuses_congr {e' : Engine} (h : e'.specs.get? id = e.specs.get? id)
    : e'.Refuses id severity options ↔ e.Refuses id severity options := by
  unfold Refuses
  rw [← Table.get?_eq_none_iff, ← Table.get?_eq_none_iff, h]

theorem configureRule_of_refuses (h : e.Refuses id severity options)
    : e.configureRule id severity options =
        .error (if id ∈ e.specs.names then .misuse (.noFields options.kindName) else .unknownRule id) := by
  by_cases hknown : id ∈ e.specs.names
  . rw [if_pos hknown]
    rcases h with hunknown | ⟨hon, hoptions⟩
    . exact absurd hknown hunknown
    . cases hspec : e.specs.get? id with
      | none => exact absurd hknown ((Table.get?_eq_none_iff _ _).mp hspec)
      | some spec => exact configureRule_optionless hspec hon hoptions
  . rw [if_neg hknown]
    apply configureRule_unknown hknown

theorem perform_configureRule {after : Engine} (h : e.configureRule id severity options = .ok after)
    : e.perform (.configureRule id severity options) = (after, none) := by
  unfold perform
  dsimp only
  rw [h]

theorem perform_of_not_refuses (h : ¬ e.Refuses id severity options)
    : ∃ after, e.perform (.configureRule id severity options) = (after, none) ∧
        e.Adjusted id severity options after := by
  unfold Refuses at h
  push Not at h
  cases hspec : e.specs.get? id with
  | none => exact absurd h.1 ((Table.get?_eq_none_iff _ _).mp hspec)
  | some spec =>
    by_cases hoff : severity = some .off
    . subst hoff
      exact ⟨_, perform_configureRule (configureRule_off hspec options), remove_adjusted e id options⟩
    . cases hr : spec.configure severity options with
      | error f => exact absurd (configure_eq_error_iff.mp ⟨f, hr⟩) (h.2 hoff)
      | ok r => exact ⟨_, perform_configureRule (configureRule_on hspec hoff hr), put_adjusted hspec hoff hr⟩

/--
Two engines that know the same rule under a name have the same rule active under it after the same call, whatever was
active before.
-/
theorem Adjusted.get?_eq {e' after after' : Engine} (hspecs : e'.specs.get? id = e.specs.get? id)
    (h : e.Adjusted id severity options after) (h' : e'.Adjusted id severity options after')
    : after'.active.get? id = after.active.get? id := by
  by_cases hoff : severity = some .off
  . rw [(Table.get?_eq_none_iff _ _).mpr (h.off hoff), (Table.get?_eq_none_iff _ _).mpr (h'.off hoff)]
  . rcases h.on hoff with ⟨spec, hspec, r, hr, hmade⟩
    rcases h'.on hoff with ⟨spec', hspec', r', hr', hmade'⟩
    rw [Option.mem_def, hspecs, hspec, Option.some.injEq] at hspec'
    subst hspec'
    have hrule := (configure_of_madeOf hmade').symm.trans (configure_of_madeOf hmade)
    rw [hr, hr', Except.ok.inj hrule]

/--
The configuration of one rule changes nothing where it is refused, and says why. Otherwise it comes to its end and
adjusts that rule alone, to what the known rule and the call say: two engines that know the same rule come to have the
same one active.
-/
theorem configureRule_adjusts (e : Engine) (id : String) (severity : Option Severity) (options : Value)
    : let call := Operation.configureRule id severity options
      (e.Refuses id severity options → e.perform call =
        (e, some (if id ∈ e.specs.names then .misuse (.noFields options.kindName) else .unknownRule id))) ∧
      (¬ e.Refuses id severity options →
        (e.perform call).2 = none ∧ e.Adjusted id severity options (e.perform call).1 ∧
        ∀ e' : Engine, e'.specs.get? id = e.specs.get? id →
          (e'.perform call).1.active.get? id = (e.perform call).1.active.get? id) := by
  intro call
  constructor
  . intro hrefuses
    simp only [call, perform]
    rw [configureRule_of_refuses hrefuses]
  . intro hnot
    rcases perform_of_not_refuses hnot with ⟨after, hperform, hadjusted⟩
    rw [hperform]
    refine ⟨rfl, hadjusted, ?_⟩
    intro e' hspecs
    have hnot' : ¬ e'.Refuses id severity options := by
      rw [refuses_congr hspecs]
      exact hnot
    rcases perform_of_not_refuses hnot' with ⟨after', hperform', hadjusted'⟩
    rw [hperform']
    exact hadjusted.get?_eq hspecs hadjusted'

end Engine

end CodeAudit.Lint
