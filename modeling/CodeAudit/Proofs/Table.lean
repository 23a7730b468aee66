import CodeAudit.Data.Table
import Mathlib.Data.List.Basic
import Mathlib.Data.List.Nodup

/-!
This module contains the laws of tables: what a name stands for after names were put in, taken out or
laid over others, and that no name comes to stand in a table twice.
-/

namespace CodeAudit.Table

variable {α β : Type}

/-! ### Looking up -/

@[simp]
theorem get?_nil (k : String) : get? ([] : Table α) k = none := rfl

theorem get?_cons (n : String) (a : α) (t : Table α) (k : String)
    : get? ((n, a) :: t) k = if k = n then some a else t.get? k := by
  unfold get?
  rw [List.lookup_cons]
  split
  . next h => simp [beq_iff_eq.mp h]
  . next h =>
    rw [if_neg]
    simpa using h

theorem get?_eq_none_iff (t : Table α) (k : String) : t.get? k = none ↔ k ∉ t.names := by
  induction t with
  | nil => simp [names]
  | cons entry rest ih =>
    rcases entry with ⟨n, a⟩
    rw [get?_cons]
    by_cases h : k = n
    . simp [h, names]
    . simpa [h, names] using ih

theorem mem_of_get? {t : Table α} {k : String} {a : α} (h : t.get? k = some a) : (k, a) ∈ t := by
  induction t with
  | nil => simp at h
  | cons entry rest ih =>
    rcases entry with ⟨n, b⟩
    rw [get?_cons] at h
    split at h
    . next hk => simp_all
    . exact List.mem_cons_of_mem _ (ih h)

theorem mem_names_of_mem {t : Table α} {entry : String × α} (h : entry ∈ t) : entry.1 ∈ t.names :=
  List.mem_map_of_mem h

theorem get?_eq_some_iff {t : Table α} (ht : t.names.Nodup) {k : String} {a : α}
    : t.get? k = some a ↔ (k, a) ∈ t := by
  refine ⟨mem_of_get?, ?_⟩
  induction t with
  | nil => simp
  | cons entry rest ih =>
    rcases entry with ⟨n, b⟩
    rcases List.nodup_cons.mp ht with ⟨hn, hrest⟩
    intro hmem
    rw [get?_cons]
    cases List.mem_cons.mp hmem with
    | inl heq =>
      cases heq
      rw [if_pos rfl]
    | inr hlater =>
      have hk : k ≠ n := by
        intro heq
        have hname : k ∈ names rest := mem_names_of_mem hlater
        rw [heq] at hname
        exact hn hname
      rw [if_neg hk]
      exact ih hrest hlater

theorem names_map (f : α → β) (t : Table α)
    : names (t.map fun entry => (entry.1, f entry.2)) = t.names := by
  simp [names]

theorem get?_map (f : α → β) (t : Table α) (k : String)
    : get? (t.map fun entry => (entry.1, f entry.2)) k = (t.get? k).map f := by
  induction t with
  | nil => rfl
  | cons entry rest ih =>
    rcases entry with ⟨n, a⟩
    rw [List.map_cons, get?_cons, get?_cons, ih]
    split <;> rfl

/--
What a name stands for does not depend on the order of a table.
-/
theorem get?_perm {t u : Table α} (ht : t.names.Nodup) (h : t.Perm u) (k : String) : t.get? k = u.get? k := by
  have hu : u.names.Nodup := (h.map _).nodup_iff.mp ht
  apply Option.ext
  intro a
  rw [get?_eq_some_iff ht, get?_eq_some_iff hu]
  exact h.mem_iff

/--
Tables in which every name stands for the same differ in their order only.
-/
theorem perm_of_get? {t u : Table α} (ht : t.names.Nodup) (hu : u.names.Nodup) (h : ∀ k, t.get? k = u.get? k)
    : t.Perm u := by
  rw [List.perm_ext_iff_of_nodup (List.Nodup.of_map _ ht) (List.Nodup.of_map _ hu)]
  rintro ⟨k, a⟩
  rw [← get?_eq_some_iff ht, ← get?_eq_some_iff hu, h k]

/-! ### Putting in and taking out -/

theorem get?_put (t : Table α) (n : String) (a : α) (k : String)
    : (t.put n a).get? k = if k = n then some a else t.get? k := by
  induction t with
  | nil => rw [put, get?_cons]
  | cons entry rest ih =>
    rcases entry with ⟨m, b⟩
    unfold put
    by_cases hm : m = n
    . subst hm
      simp only [beq_self_eq_true, ↓reduceIte, get?_cons]
      split <;> rfl
    . rw [if_neg (by simpa using hm)]
      rw [get?_cons, get?_cons, ih]
      by_cases hk : k = n
      . have hne : k ≠ m := by
          intro h
          exact hm (h.symm.trans hk)
        rw [if_neg hne, if_pos hk, if_pos hk]
      . simp [hk]

theorem put_of_not_mem {t : Table α} {n : String} (h : n ∉ t.names) (a : α)
    : t.put n a = t ++ [(n, a)] := by
  induction t with
  | nil => rfl
  | cons entry rest ih =>
    rcases entry with ⟨m, b⟩
    simp only [names, List.map_cons, List.mem_cons, not_or] at h
    unfold put
    rw [if_neg (by simpa using Ne.symm h.1)]
    rw [ih h.2]
    rfl

theorem names_put_of_mem {t : Table α} {n : String} (h : n ∈ t.names) (a : α)
    : (t.put n a).names = t.names := by
  induction t with
  | nil => simp [names] at h
  | cons entry rest ih =>
    rcases entry with ⟨m, b⟩
    unfold put
    split
    . rfl
    . next hm =>
      have hrest : n ∈ names rest := by
        simp only [names, List.map_cons, List.mem_cons] at h
        cases h with
        | inl heq => simp [heq] at hm
        | inr hmem => exact hmem
      simpa [names] using ih hrest

theorem mem_names_put {t : Table α} {n : String} {a : α} {k : String}
    : k ∈ (t.put n a).names ↔ k = n ∨ k ∈ t.names := by
  by_cases h : n ∈ t.names
  . rw [names_put_of_mem h]
    constructor
    . exact Or.inr
    . rintro (rfl | hk)
      . exact h
      . exact hk
  . rw [put_of_not_mem h]
    simp [names, or_comm]

theorem nodup_put {t : Table α} (ht : t.names.Nodup) (n : String) (a : α)
    : (t.put n a).names.Nodup := by
  by_cases h : n ∈ t.names
  . rw [names_put_of_mem h]
    exact ht
  . rw [put_of_not_mem h]
    unfold names
    rw [List.map_append]
    rw [List.nodup_append]
    refine ⟨ht, by simp, ?_⟩
    intro k hk m hm heq
    have hmn : m = n := by simpa using hm
    apply h
    rw [← hmn, ← heq]
    exact hk

/--
What stands in a table after a name was put in stood there before or is what was put in.
-/
theorem mem_put {t : Table α} {n : String} {a : α} {entry : String × α} (h : entry ∈ t.put n a)
    : entry = (n, a) ∨ entry ∈ t := by
  induction t with
  | nil => simpa [put] using h
  | cons first rest ih =>
    rcases first with ⟨m, b⟩
    unfold put at h
    split at h
    . next hm =>
      cases List.mem_cons.mp h with
      | inl heq => simp [heq, beq_iff_eq.mp hm]
      | inr hmem => exact Or.inr (List.mem_cons_of_mem _ hmem)
    . cases List.mem_cons.mp h with
      | inl heq => simp [heq]
      | inr hmem =>
        cases ih hmem with
        | inl heq => exact Or.inl heq
        | inr hrest => exact Or.inr (List.mem_cons_of_mem _ hrest)

theorem names_remove (t : Table α) (n : String) : (t.remove n).names = t.names.filter (· != n) := by
  simp [names, remove, List.filter_map, Function.comp_def]

theorem get?_remove (t : Table α) (n k : String)
    : (t.remove n).get? k = if k = n then none else t.get? k := by
  induction t with
  | nil => simp [remove]
  | cons entry rest ih =>
    rcases entry with ⟨m, b⟩
    unfold remove at ih ⊢
    rw [List.filter_cons, get?_cons]
    by_cases hm : m = n
    . rw [if_neg (by simpa using hm), ih, hm]
      split <;> rfl
    . rw [if_pos (by simpa using hm), get?_cons, ih]
      by_cases hk : k = m
      . rw [if_pos hk, if_neg (hk ▸ hm), if_pos hk]
      . rw [if_neg hk, if_neg hk]

theorem nodup_remove {t : Table α} (ht : t.names.Nodup) (n : String) : (t.remove n).names.Nodup := by
  rw [names_remove]
  exact ht.filter _

/--
Putting in a name changes neither the other entries nor their order.
-/
theorem remove_put (t : Table α) (n : String) (a : α) : (t.put n a).remove n = t.remove n := by
  induction t with
  | nil => simp [put, remove]
  | cons entry rest ih =>
    rcases entry with ⟨m, b⟩
    unfold put
    split
    . next hm => simp [remove, beq_iff_eq.mp hm]
    . unfold remove at ih ⊢
      rw [List.filter_cons, List.filter_cons, ih]

theorem remove_remove (t : Table α) (n : String) : (t.remove n).remove n = t.remove n := by
  unfold remove
  simp

/-! ### Laying one table over another -/

theorem overlay_cons (t : Table α) (n : String) (a : α) (u : Table α)
    : t.overlay ((n, a) :: u) = (t.put n a).overlay u := rfl

theorem mem_names_overlay {t u : Table α} {k : String}
    : k ∈ (t.overlay u).names ↔ k ∈ t.names ∨ k ∈ u.names := by
  induction u generalizing t with
  | nil => simp [overlay, names]
  | cons entry rest ih =>
    rcases entry with ⟨n, a⟩
    rw [overlay_cons, ih, mem_names_put]
    simp only [names, List.map_cons, List.mem_cons]
    tauto

theorem nodup_overlay {t : Table α} (ht : t.names.Nodup) (u : Table α)
    : (t.overlay u).names.Nodup := by
  induction u generalizing t with
  | nil => exact ht
  | cons entry rest ih => exact ih (nodup_put ht _ _)

theorem mem_overlay {t u : Table α} {entry : String × α} (h : entry ∈ t.overlay u)
    : entry ∈ t ∨ entry ∈ u := by
  induction u generalizing t with
  | nil => exact Or.inl h
  | cons first rest ih =>
    cases ih h with
    | inl hput =>
      cases mem_put hput with
      | inl heq => exact Or.inr (by rw [heq]; exact List.mem_cons_self)
      | inr hmem => exact Or.inl hmem
    | inr hrest => exact Or.inr (List.mem_cons_of_mem _ hrest)

/--
Where both tables have a value for a name, that of the upper one counts.
-/
theorem get?_overlay (t : Table α) {u : Table α} (hu : u.names.Nodup) (k : String)
    : (t.overlay u).get? k = (u.get? k).or (t.get? k) := by
  induction u generalizing t with
  | nil => rfl
  | cons entry rest ih =>
    rcases entry with ⟨n, a⟩
    rcases List.nodup_cons.mp hu with ⟨hn, hrest⟩
    rw [overlay_cons, ih _ hrest, get?_put, get?_cons]
    by_cases hk : k = n
    . have hnone : get? rest k = none := by
        rw [get?_eq_none_iff, hk]
        exact hn
      rw [hnone, if_pos hk, if_pos hk]
      rfl
    . rw [if_neg hk, if_neg hk]

/-! ### Selections -/

/--
A selection by name or by value has no names but those selected by name exactly if no other value is selected.
-/
theorem mem_names_filter_iff (t : Table α) (p : String → Prop) (q : α → Prop) [DecidablePred p]
    [DecidablePred q]
    : (∀ k, k ∈ names (t.filter fun entry => p entry.1 ∨ q entry.2) ↔ k ∈ t.names ∧ p k) ↔
        ∀ entry ∈ t, ¬ p entry.1 → ¬ q entry.2 := by
  have hmem : ∀ k, k ∈ names (t.filter fun entry => p entry.1 ∨ q entry.2) ↔
      ∃ entry ∈ t, (p entry.1 ∨ q entry.2) ∧ entry.1 = k := by
    intro k
    simp [names]
  simp only [hmem]
  constructor
  . intro h entry hentry hname hvalue
    exact hname ((h entry.1).mp ⟨entry, hentry, Or.inr hvalue, rfl⟩).2
  . intro h k
    constructor
    . rintro ⟨entry, hentry, hselected, rfl⟩
      refine ⟨mem_names_of_mem hentry, ?_⟩
      by_contra hname
      exact hselected.elim hname (h entry hentry hname)
    . rintro ⟨hk, hname⟩
      rcases List.mem_map.mp hk with ⟨entry, hentry, rfl⟩
      exact ⟨entry, hentry, Or.inl hname, rfl⟩

end CodeAudit.Table
