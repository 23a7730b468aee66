import CodeAudit.Proofs.Batch
import CodeAudit.Proofs.History

/-!
This module contains what the order in which an engine is set up comes to. The order in which rules become known
and the order in which they are configured both leave their traces in the order of the active rules, and the order
of what is reported is all that can be seen of it.
-/

namespace CodeAudit

/-! ### Changes of a table -/

namespace Table

variable {α : Type}

/--
Change what a name stands for: put a value in, or take the name out.
-/
def change (t : Table α) (name : String) : Option α → Table α
  | some a => t.put name a
  | none => t.remove name

/--
Make changes one after the other.
-/
def changeAll (t : Table α) (changes : Table (Option α)) : Table α :=
  changes.foldl (fun t entry => t.change entry.1 entry.2) t

theorem changeAll_cons (t : Table α) (n : String) (made : Option α) (changes : Table (Option α))
    : t.changeAll ((n, made) :: changes) = (t.change n made).changeAll changes := rfl

theorem get?_change (t : Table α) (n : String) (made : Option α) (k : String)
    : (t.change n made).get? k = if k = n then made else t.get? k := by
  cases made with
  | some a => exact get?_put t n a k
  | none => exact get?_remove t n k

theorem mem_names_change {t : Table α} {n : String} {made : Option α} {k : String}
    (h : k ∈ (t.change n made).names) : k = n ∨ k ∈ t.names := by
  cases made with
  | some a => exact mem_names_put.mp h
  | none =>
    right
    rw [change, names_remove] at h
    exact List.mem_of_mem_filter h

theorem change_of_not_mem {t : Table α} {n : String} (h : n ∉ t.names) (made : Option α)
    : t.change n made = made.elim t (t.put n) := by
  cases made with
  | some a => rfl
  | none =>
    unfold change remove
    rw [Option.elim_none, List.filter_eq_self]
    intro entry hentry
    rw [bne_iff_ne]
    intro heq
    apply h
    rw [← heq]
    exact mem_names_of_mem hentry

theorem nodup_change {t : Table α} (ht : t.names.Nodup) (n : String) (made : Option α)
    : (t.change n made).names.Nodup := by
  cases made with
  | some a => exact nodup_put ht n a
  | none => exact nodup_remove ht n

theorem nodup_changeAll {t : Table α} (ht : t.names.Nodup) (changes : Table (Option α))
    : (t.changeAll changes).names.Nodup := by
  induction changes generalizing t with
  | nil => exact ht
  | cons entry rest ih => exact ih (nodup_change ht entry.1 entry.2)

/--
Changes of different names do not get in each other's way.
-/
theorem get?_changeAll (t : Table α) {changes : Table (Option α)} (hchanges : changes.names.Nodup) (k : String)
    : (t.changeAll changes).get? k = (changes.get? k).getD (t.get? k) := by
  induction changes generalizing t with
  | nil => rfl
  | cons entry rest ih =>
    rcases entry with ⟨n, made⟩
    rcases List.nodup_cons.mp hchanges with ⟨hn, hrest⟩
    rw [changeAll_cons, ih _ hrest, get?_change, get?_cons]
    by_cases hk : k = n
    . have hnone : get? rest k = none := by
        rw [get?_eq_none_iff, hk]
        exact hn
      rw [hnone, if_pos hk, if_pos hk]
      rfl
    . rw [if_neg hk, if_neg hk]

end Table

namespace Lint

/-! ### What is reported -/

namespace FileResult

/--
Two results that differ in the order of their violations only.
-/
structure SameButOrder (r r' : FileResult) : Prop where
  path : r.path = r'.path
  errorCount : r.errorCount = r'.errorCount
  warningCount : r.warningCount = r'.warningCount
  problems : r.problems = r'.problems
  violations : r.violations.Perm r'.violations

theorem counts_addAll (r : FileResult) (vs : List Violation)
    : (r.addAll vs).errorCount = r.errorCount + vs.countP (·.severity = .error) ∧
        (r.addAll vs).warningCount = r.warningCount + vs.countP (·.severity = .warn) := by
  unfold addAll
  induction vs generalizing r with
  | nil => exact ⟨rfl, rfl⟩
  | cons v rest ih =>
    rw [List.foldl_cons, (ih _).1, (ih _).2, List.countP_cons, List.countP_cons]
    simp only [add, decide_eq_true_eq]
    constructor
    all_goals
      split
      . omega
      . omega

theorem addAll_perm (r : FileResult) {vs vs' : List Violation} (h : vs.Perm vs')
    : (r.addAll vs).SameButOrder (r.addAll vs') := by
  rcases addAll_keeps r vs with ⟨hpath, hproblems⟩
  rcases addAll_keeps r vs' with ⟨hpath', hproblems'⟩
  rcases counts_addAll r vs with ⟨herrors, hwarnings⟩
  rcases counts_addAll r vs' with ⟨herrors', hwarnings'⟩
  constructor
  . rw [hpath, hpath']
  . rw [herrors, herrors', h.countP_eq]
  . rw [hwarnings, hwarnings', h.countP_eq]
  . rw [hproblems, hproblems']
  . rw [violations_addAll, violations_addAll]
    exact h.append_left r.violations

end FileResult

namespace Engine

/--
Engines with the same active rules in whatever order report the same but for the order.
-/
theorem lint_perm {e e' : Engine} (h : e.active.Perm e'.active) {o : Outline} {result : FileResult}
    (hlint : e.lint o = .ok result) : ∃ result', e'.lint o = .ok result' ∧ result.SameButOrder result' := by
  have hrules : e.enabledRules.Perm e'.enabledRules := (h.map _).filter _
  rcases lint_eq_ok_iff_checks.mp hlint with ⟨found, hfound, rfl⟩
  rcases mapM_perm (hrules.filter _) hfound with ⟨found', hfound', hperm⟩
  refine ⟨_, lint_eq_ok_iff_checks.mpr ⟨found', hfound', rfl⟩, ?_⟩
  apply FileResult.addAll_perm
  exact hperm.flatten

/-! ### Setting an engine up -/

/--
What is to be said to configure one rule.
-/
structure RuleCall where
  id : String
  severity : Option Severity
  options : Value

/--
Configure rules one after the other, up to the first fault.
-/
def configureAll (e : Engine) (calls : List RuleCall) : Except Fault Engine :=
  calls.foldlM (fun e call => e.configureRule call.id call.severity call.options) e

/--
Set up a new engine: make rules known, give it a configuration, and then configure single rules.
-/
def setUp (specs : List RuleSpec) (c : Config) (calls : List RuleCall) : Except Fault Engine :=
  let (e, fault) := (specs.foldl register {}).use (.ok c)
  match fault with
  | some f => .error f
  | none => e.configureAll calls

/--
What a configuration changes in the active rules by a known one.
-/
def settled (c : Config) (spec : RuleSpec) : Except Fault (String × Option Rule) :=
  (resolve c spec).map fun made => (spec.id, made)

/--
What a call changes in the active rules, where these rules are known.
-/
def RuleCall.change (known : Table RuleSpec) (call : RuleCall) : Except Fault (String × Option Rule) :=
  match known.get? call.id with
  | none => .error (.unknownRule call.id)
  | some spec =>
    if call.severity = some .off then .ok (call.id, none)
    else (spec.configure call.severity call.options).map fun r => (call.id, some r)

theorem name_of_settled {c : Config} {spec : RuleSpec} {entry : String × Option Rule}
    (h : settled c spec = .ok entry) : entry.1 = spec.id := by
  rcases map_eq_ok_iff.mp h with ⟨made, _, rfl⟩
  rfl

theorem RuleCall.name_of_change {known : Table RuleSpec} {call : RuleCall} {entry : String × Option Rule}
    (h : call.change known = .ok entry) : entry.1 = call.id := by
  unfold change at h
  split at h
  . cases h
  . split at h
    . cases h
      rfl
    . rcases map_eq_ok_iff.mp h with ⟨r, _, rfl⟩
      rfl

theorem names_of_mapM {α : Type} {f : α → Except Fault (String × Option Rule)} {name : α → String}
    (hname : ∀ a entry, f a = .ok entry → entry.1 = name a) {as : List α} {changes : Table (Option Rule)}
    (h : as.mapM f = .ok changes) : changes.names = as.map name := by
  rw [mapM_eq_ok_iff] at h
  induction h with
  | nil => rfl
  | cons hhead _ ih =>
    unfold Table.names at ih ⊢
    rw [List.map_cons, List.map_cons, ih, hname _ _ hhead]

theorem configureRule_eq (e : Engine) (call : RuleCall)
    : e.configureRule call.id call.severity call.options
        =
      (call.change e.specs).map fun entry => { e with active := e.active.change entry.1 entry.2 } := by
  unfold configureRule RuleCall.change
  cases e.specs.get? call.id with
  | none => rfl
  | some spec =>
    dsimp only
    split
    . rfl
    . cases spec.configure call.severity call.options with
      | error f => rfl
      | ok r => rfl

/--
The calls are independent of each other: each makes its change from the rules that are known, and these stay.
-/
theorem configureAll_eq (e : Engine) (calls : List RuleCall)
    : e.configureAll calls
        =
      (calls.mapM (RuleCall.change e.specs)).map fun changes => { e with active := e.active.changeAll changes } := by
  induction calls generalizing e with
  | nil => rfl
  | cons call calls ih =>
    unfold configureAll at ih ⊢
    rw [List.foldlM_cons, List.mapM_cons, configureRule_eq]
    cases call.change e.specs with
    | error f => rfl
    | ok entry =>
      dsimp only [bind, Except.bind, Except.map]
      rw [ih]
      cases calls.mapM (RuleCall.change e.specs) with
      | error f => rfl
      | ok changes => rfl

theorem activate_eq_changeAll {c : Config} {active : Table Rule} {specs : List RuleSpec}
    (hids : (specs.map (·.id)).Nodup) (hnew : ∀ spec ∈ specs, spec.id ∉ active.names)
    {changes : Table (Option Rule)} (hchanges : specs.mapM (settled c) = .ok changes)
    : activate c active specs = (active.changeAll changes, none) := by
  induction specs generalizing active changes with
  | nil =>
    cases hchanges
    rfl
  | cons spec specs ih =>
    rcases List.nodup_cons.mp hids with ⟨hid, hrest⟩
    rw [List.forall_mem_cons] at hnew
    rcases List.forall₂_cons_left_iff.mp (mapM_eq_ok_iff.mp hchanges) with ⟨entry, changes', hentry, hall, rfl⟩
    rcases map_eq_ok_iff.mp hentry with ⟨made, hmade, rfl⟩
    have hfresh : ∀ other ∈ specs, other.id ∉ (active.change spec.id made).names := by
      intro other hother hmem
      cases Table.mem_names_change hmem with
      | inl heq => exact hid (List.mem_map.mpr ⟨other, hother, heq⟩)
      | inr hmem => exact hnew.2 other hother hmem
    rw [activate_cons hmade, Table.changeAll_cons, ← Table.change_of_not_mem hnew.1]
    exact ih hrest hfresh (mapM_eq_ok_iff.mpr hall)

theorem exists_settled_iff {c : Config} {active : Table Rule} {specs : List RuleSpec}
    : (∃ made, specs.mapM (settled c) = .ok made) ↔ (activate c active specs).2 = none := by
  rw [exists_mapM_eq_ok_iff, activate_eq_none_iff]
  apply forall₂_congr
  intro spec _
  unfold settled
  simp only [map_eq_ok_iff]
  constructor
  . rintro ⟨_, made, hmade, _⟩
    exact ⟨made, hmade⟩
  . rintro ⟨made, hmade⟩
    exact ⟨_, made, hmade, rfl⟩

/--
Rules under their names.
-/
def named (specs : List RuleSpec) : Table RuleSpec :=
  specs.map fun spec => (spec.id, spec)

theorem use_named {specs : List RuleSpec} (hids : (specs.map (·.id)).Nodup) (c : Config)
    : (specs.foldl register {}).use (.ok c)
        =
      (⟨named specs, (activate c [] specs).1, some c⟩, (activate c [] specs).2) := by
  have hknown : (specs.foldl register {}).specs = named specs :=
    foldl_register_specs hids (by simp [Table.names])
  rw [use_eq, map_register_specs hids, hknown]

/--
An engine with different rules is set up exactly if every rule can be settled and every call makes its change, and
then the active rules are what these changes leave.
-/
theorem setUp_eq_ok_iff {specs : List RuleSpec} (hids : (specs.map (·.id)).Nodup) {c : Config}
    {calls : List RuleCall} {e : Engine}
    : setUp specs c calls = .ok e ↔
        ∃ made changes, specs.mapM (settled c) = .ok made ∧
          calls.mapM (RuleCall.change (named specs)) = .ok changes ∧
          e = ⟨named specs, (Table.changeAll [] made).changeAll changes, some c⟩ := by
  unfold setUp
  rw [use_named hids]
  dsimp only
  cases hmade : specs.mapM (settled c) with
  | error f =>
    have hfault : (activate c [] specs).2 ≠ none := by
      rw [ne_eq, ← exists_settled_iff, hmade]
      simp
    rcases Option.ne_none_iff_exists'.mp hfault with ⟨f', hf'⟩
    rw [hf']
    simp
  | ok made =>
    rw [activate_eq_changeAll hids (by simp [Table.names]) hmade]
    dsimp only
    rw [configureAll_eq, map_eq_ok_iff]
    constructor
    . rintro ⟨changes, hchanges, rfl⟩
      exact ⟨made, changes, rfl, hchanges, rfl⟩
    . rintro ⟨_, changes, hsame, hchanges, rfl⟩
      cases hsame
      exact ⟨changes, hchanges, rfl⟩

theorem change_named_perm {specs specs' : List RuleSpec} (hids : (specs.map (·.id)).Nodup) (h : specs.Perm specs')
    : RuleCall.change (named specs) = RuleCall.change (named specs') := by
  have hnames : (named specs).names = specs.map (·.id) := by simp [Table.names, named]
  have hperm : (named specs).Perm (named specs') := h.map _
  funext call
  unfold RuleCall.change
  rw [Table.get?_perm (hnames ▸ hids) hperm]

theorem get?_setUp_perm {made made' changes changes' : Table (Option Rule)} (hmade : made.Perm made')
    (hnodup : made.names.Nodup) (hchanges : changes.Perm changes') (hnodup' : changes.names.Nodup) (id : String)
    : ((Table.changeAll [] made).changeAll changes).get? id =
        ((Table.changeAll [] made').changeAll changes').get? id := by
  rw [Table.get?_changeAll _ hnodup', Table.get?_changeAll _ hnodup]
  rw [Table.get?_changeAll _ ((hchanges.map _).nodup_iff.mp hnodup')]
  rw [Table.get?_changeAll _ ((hmade.map _).nodup_iff.mp hnodup)]
  rw [Table.get?_perm hnodup hmade, Table.get?_perm hnodup' hchanges]

/--
The order in which different rules become known does not matter, nor does the order of calls that configure
different rules. If an engine is set up without a fault in one order, then it is in every other. Each name stands
for the same rule, or for none, in both engines, and where one of them comes to a result for an outline, the other
comes to the same but for the order of the violations.
-/
theorem setUp_any_order {specs specs' : List RuleSpec} (hspecs : specs.Perm specs')
    (hids : (specs.map (·.id)).Nodup) {calls calls' : List RuleCall} (hcalls : calls.Perm calls')
    (hcallIds : (calls.map (·.id)).Nodup) {c : Config} {e : Engine} (he : setUp specs c calls = .ok e)
    : ∃ e', setUp specs' c calls' = .ok e' ∧
        (∀ id, e.active.get? id = e'.active.get? id) ∧
        ∀ o result, e.lint o = .ok result →
          ∃ result', e'.lint o = .ok result' ∧ result.SameButOrder result' := by
  have hids' : (specs'.map (·.id)).Nodup := (hspecs.map _).nodup_iff.mp hids
  rcases (setUp_eq_ok_iff hids).mp he with ⟨made, changes, hmade, hchanges, rfl⟩
  rcases mapM_perm hspecs hmade with ⟨made', hmade', hmadePerm⟩
  rcases mapM_perm hcalls hchanges with ⟨changes', hchanges', hchangesPerm⟩
  rw [change_named_perm hids hspecs] at hchanges'
  have hmadeNames : Table.names made = specs.map (·.id) := names_of_mapM (fun _ _ => name_of_settled) hmade
  have hchangesNames : Table.names changes = calls.map (·.id) :=
    names_of_mapM (fun _ _ => RuleCall.name_of_change) hchanges
  have hlookup := get?_setUp_perm hmadePerm (hmadeNames ▸ hids) hchangesPerm (hchangesNames ▸ hcallIds)
  refine ⟨_, (setUp_eq_ok_iff hids').mpr ⟨made', changes', hmade', hchanges', rfl⟩, hlookup, ?_⟩
  intro o result hlint
  apply lint_perm _ hlint
  apply Table.perm_of_get? _ _ hlookup
  all_goals
    apply Table.nodup_changeAll
    apply Table.nodup_changeAll
    exact List.nodup_nil

-- The configuration turns a rule off that a call brings back, behind all others, and another call turns one off.
def quietConfig : Config where
  rules := [(maxComplexity.id, ⟨.int 0, .null⟩)]

def boxCalls : List RuleCall :=
  [⟨maxComplexity.id, some .error, .object [("max", .int 9)]⟩, ⟨classNaming.id, some .off, .null⟩]

theorem setUp_any_order_boxCalls
    : (builtinRules.map (·.id)).Nodup ∧ (boxCalls.map (·.id)).Nodup ∧
      ∃ e e' result result', setUp builtinRules quietConfig boxCalls = .ok e ∧
        setUp builtinRules.reverse quietConfig boxCalls.reverse = .ok e' ∧
        (∀ id, e.active.get? id = e'.active.get? id) ∧ e.active.names ≠ e'.active.names ∧
        e.lint boxOutline = .ok result ∧ e'.lint boxOutline = .ok result' ∧ result.SameButOrder result' ∧
        result.errorCount = 2 ∧ result.warningCount = 3 ∧
        result.violations.map (·.ruleId) ≠ result'.violations.map (·.ruleId) := by
  have hcallIds : (boxCalls.map (·.id)).Nodup := by decide
  have hfirst : ∃ e result, setUp builtinRules quietConfig boxCalls = .ok e ∧
      e.active.names.head? = some maxFunctionLines.id ∧ e.lint boxOutline = .ok result ∧
      result.errorCount = 2 ∧ result.warningCount = 3 ∧
      (result.violations.map (·.ruleId)).head? = some maxFunctionLines.id := ⟨_, _, rfl, rfl, rfl, rfl, rfl, rfl⟩
  have hsecond : ∃ e' result', setUp builtinRules.reverse quietConfig boxCalls.reverse = .ok e' ∧
      e'.active.names.head? = some maxFunctionsPerFile.id ∧ e'.lint boxOutline = .ok result' ∧
      (result'.violations.map (·.ruleId)).head? = some maxFileLines.id := ⟨_, _, rfl, rfl, rfl, rfl⟩
  rcases hfirst with ⟨e, result, he, hnames, hlint, herrors, hwarnings, hviolations⟩
  rcases hsecond with ⟨e', result', he', hnames', hlint', hviolations'⟩
  rcases setUp_any_order (List.reverse_perm builtinRules).symm builtinRules_nodup
    (List.reverse_perm boxCalls).symm hcallIds he with ⟨_, hsetUp, hrules, hresults⟩
  cases he'.symm.trans hsetUp
  rcases hresults boxOutline result hlint with ⟨_, hresult, hsame⟩
  cases hlint'.symm.trans hresult
  refine ⟨builtinRules_nodup, hcallIds, e, e', result, result', he, he', hrules, ?_, hlint, hlint', hsame,
    herrors, hwarnings, ?_⟩
  . intro heq
    rw [heq, hnames'] at hnames
    revert hnames
    decide
  . intro heq
    rw [heq, hviolations'] at hviolations
    revert hviolations
    decide

end Engine

end Lint

end CodeAudit
