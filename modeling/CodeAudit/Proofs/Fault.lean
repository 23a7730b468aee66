import CodeAudit.Fault
import Mathlib.Data.List.Forall2
import Mathlib.Data.List.Perm.Basic

/-!
This module contains how computations that may stop are taken apart: when a sequence of steps comes to
its end, and what it has done then.
-/

namespace CodeAudit

variable {ε α β : Type}

theorem bind_eq_ok_iff {x : Except ε α} {f : α → Except ε β} {b : β}
    : x >>= f = .ok b ↔ ∃ a, x = .ok a ∧ f a = .ok b := by
  cases x with
  | error e => simp [bind, Except.bind]
  | ok a => simp [bind, Except.bind]

theorem map_eq_ok_iff {x : Except ε α} {f : α → β} {b : β}
    : x.map f = .ok b ↔ ∃ a, x = .ok a ∧ f a = b := by
  cases x with
  | error e => simp [Except.map]
  | ok a => simp [Except.map]

theorem orFault_eq_ok_iff {x : Except Misuse α} {a : α} : orFault x = .ok a ↔ x = .ok a := by
  cases x with
  | error e => simp [orFault]
  | ok a => simp [orFault]

theorem Value.fieldsFor_eq_ok {operation : String} {v : Value} {fields : Table Value}
    (h : v.fieldsFor operation = .ok fields) : v = .object fields := by
  cases v with
  | object fields' =>
    cases h
    rfl
  | _ => cases h

/--
Steps that all succeed succeed together.
-/
theorem mapM_eq_ok {f : α → Except ε β} {g : α → β} {as : List α}
    (h : ∀ a ∈ as, f a = .ok (g a)) : as.mapM f = .ok (as.map g) := by
  induction as with
  | nil => rfl
  | cons a rest ih =>
    rw [List.mapM_cons]
    rw [h a List.mem_cons_self]
    rw [ih fun b hb => h b (List.mem_cons_of_mem _ hb)]
    rfl

/--
Steps succeed together exactly if each of them does, and give what each of them gives.
-/
theorem mapM_eq_ok_iff {f : α → Except ε β} {as : List α} {bs : List β}
    : as.mapM f = .ok bs ↔ List.Forall₂ (fun a b => f a = .ok b) as bs := by
  induction as generalizing bs with
  | nil =>
    rw [List.mapM_nil, List.forall₂_nil_left_iff]
    exact ⟨fun h => (Except.ok.inj h).symm, fun h => congrArg _ h.symm⟩
  | cons a rest ih =>
    rw [List.mapM_cons, bind_eq_ok_iff, List.forall₂_cons_left_iff]
    constructor
    . rintro ⟨b, hb, h⟩
      rcases bind_eq_ok_iff.mp h with ⟨bs', hbs', h⟩
      cases h
      exact ⟨b, bs', hb, ih.mp hbs', rfl⟩
    . rintro ⟨b, bs', hb, hbs', rfl⟩
      exact ⟨b, hb, bind_eq_ok_iff.mpr ⟨bs', ih.mpr hbs', rfl⟩⟩

theorem exists_mapM_eq_ok_iff {f : α → Except ε β} {as : List α}
    : (∃ bs, as.mapM f = .ok bs) ↔ ∀ a ∈ as, ∃ b, f a = .ok b := by
  simp only [mapM_eq_ok_iff]
  induction as with
  | nil => simp
  | cons a rest ih =>
    rw [List.forall_mem_cons, ← ih]
    constructor
    . rintro ⟨bs, hbs⟩
      cases hbs with
      | cons hb hrest => exact ⟨⟨_, hb⟩, ⟨_, hrest⟩⟩
    . rintro ⟨⟨b, hb⟩, ⟨bs, hbs⟩⟩
      exact ⟨b :: bs, .cons hb hbs⟩

/--
Steps stop at the first of them that does, with its fault.
-/
theorem mapM_eq_error_iff {f : α → Except ε β} {as : List α} {e : ε}
    : as.mapM f = .error e ↔
        ∃ before a after, as = before ++ a :: after ∧ (∀ b ∈ before, ∃ c, f b = .ok c) ∧ f a = .error e := by
  induction as with
  | nil =>
    rw [List.mapM_nil]
    simp [pure, Except.pure]
  | cons a rest ih =>
    rw [List.mapM_cons]
    constructor
    . intro h
      cases ha : f a with
      | error e' =>
        rw [ha] at h
        cases h
        exact ⟨[], a, rest, rfl, List.forall_mem_nil _, ha⟩
      | ok b =>
        cases hrest : rest.mapM f with
        | ok bs =>
          rw [ha, hrest] at h
          cases h
        | error e' =>
          rw [ha, hrest] at h
          cases h
          rcases ih.mp hrest with ⟨before, a', after, rfl, hbefore, ha'⟩
          exact ⟨a :: before, a', after, rfl, List.forall_mem_cons.mpr ⟨⟨b, ha⟩, hbefore⟩, ha'⟩
    . rintro ⟨before, a', after, heq, hbefore, ha'⟩
      cases before with
      | nil =>
        cases heq
        rw [ha']
        rfl
      | cons first before =>
        cases heq
        rw [List.forall_mem_cons] at hbefore
        rcases hbefore with ⟨⟨b, hb⟩, hbefore⟩
        rw [hb, ih.mpr ⟨before, a', after, rfl, hbefore, ha'⟩]
        rfl

theorem exists_of_mem_mapM {f : α → Except ε β} {as : List α} {bs : List β} (h : as.mapM f = .ok bs) {b : β}
    (hb : b ∈ bs) : ∃ a ∈ as, f a = .ok b := by
  have hall := mapM_eq_ok_iff.mp h
  clear h
  induction hall with
  | nil => cases hb
  | @cons a b' as bs hhead _ ih =>
    rcases List.mem_cons.mp hb with rfl | hmem
    . exact ⟨a, List.mem_cons_self, hhead⟩
    . rcases ih hmem with ⟨a', ha', hstep⟩
      exact ⟨a', List.mem_cons_of_mem _ ha', hstep⟩

/--
Steps that succeed together do so in any order, and give the same in that order.
-/
theorem mapM_perm {f : α → Except ε β} {as as' : List α} (h : as.Perm as') {bs : List β}
    (hbs : as.mapM f = .ok bs) : ∃ bs', as'.mapM f = .ok bs' ∧ bs.Perm bs' := by
  rcases List.perm_comp_forall₂ h.symm (mapM_eq_ok_iff.mp hbs) with ⟨bs', hbs', hperm⟩
  exact ⟨bs', mapM_eq_ok_iff.mpr hbs', hperm.symm⟩

end CodeAudit
