import CodeAudit.Lint.Config
import CodeAudit.Proofs.Fault
import CodeAudit.Proofs.Table

/-!
This module contains how severities and options are read from the values of a configuration: what each
value stands for, and which values stand for nothing.
-/

namespace CodeAudit

/-! ### Severities -/

namespace Lint.Severity

/--
The severity that a value stands for: by its number, by its name in any case of its letters, and
`warn` for what is neither a number nor a text.
-/
inductive Reads : Value → Severity → Prop where
  | zero : Reads (.int 0) .off
  | one : Reads (.int 1) .warn
  | two : Reads (.int 2) .error
  | false : Reads (.bool false) .off
  | true : Reads (.bool true) .warn
  | name {s : String} {severity : Severity} (h : Unicode.upper s = severity.name)
    : Reads (.text s) severity
  | null : Reads .null .warn
  | float (x : Float) : Reads (.float x) .warn
  | list (vs : List Value) : Reads (.list vs) .warn
  | object (fields : Table Value) : Reads (.object fields) .warn
  | moment (m : Moment) : Reads (.moment m) .warn

/--
The values that stand for no severity: the numbers beyond those of the severities, and the texts that
are no name of one.
-/
def Unreadable (v : Value) : Prop :=
  (∃ n : Int, v = .int n ∧ (n < 0 ∨ 2 < n)) ∨
    (∃ s : String, v = .text s ∧ ∀ severity : Severity, Unicode.upper s ≠ severity.name)

theorem named_get?_eq_some_iff {s : String} {severity : Severity}
    : named.get? s = some severity ↔ s = severity.name := by
  constructor
  . intro h
    have hmem := Table.mem_of_get? h
    simp only [named, List.mem_cons, Prod.mk.injEq, List.not_mem_nil, or_false] at hmem
    rcases hmem with ⟨rfl, rfl⟩ | ⟨rfl, rfl⟩ | ⟨rfl, rfl⟩ <;> rfl
  . intro h
    rw [h]
    cases severity <;> rfl

theorem ofName_eq_ok_iff {s : String} {severity : Severity}
    : ofName s = .ok severity ↔ Unicode.upper s = severity.name := by
  rw [← named_get?_eq_some_iff]
  unfold ofName
  cases named.get? (Unicode.upper s) <;> simp

theorem ofInt_eq_ok_iff {n : Int} {severity : Severity}
    : ofInt n = .ok severity ↔ Reads (.int n) severity := by
  unfold ofInt
  constructor
  . intro h
    split at h
    . next hn => cases h; rw [hn]; exact .zero
    . split at h
      . next hn => cases h; rw [hn]; exact .one
      . split at h
        . next hn => cases h; rw [hn]; exact .two
        . cases h
  . intro h
    cases h <;> rfl

theorem ofValue_eq_ok_iff {v : Value} {severity : Severity}
    : ofValue v = .ok severity ↔ Reads v severity := by
  constructor
  . intro h
    cases v with
    | null => cases h; exact .null
    | bool b =>
      cases b with
      | false => cases h; exact .false
      | true => cases h; exact .true
    | int n => exact ofInt_eq_ok_iff.mp h
    | float x => cases h; exact .float x
    | text s => exact .name (ofName_eq_ok_iff.mp h)
    | list vs => cases h; exact .list vs
    | object fields => cases h; exact .object fields
    | moment m => cases h; exact .moment m
  . intro h
    cases h with
    | name h => exact ofName_eq_ok_iff.mpr h
    | _ => rfl

theorem ofInt_eq_error_iff {n : Int} : (∃ f, ofInt n = .error f) ↔ n < 0 ∨ 2 < n := by
  unfold ofInt
  split
  . simp; omega
  . split
    . simp; omega
    . split
      . simp; omega
      . simp; omega

theorem ofValue_eq_error_iff {v : Value} : (∃ f, ofValue v = .error f) ↔ Unreadable v := by
  unfold Unreadable
  cases v with
  | bool b => cases b <;> simp [ofValue, ofInt]
  | int n => simpa [ofValue] using ofInt_eq_error_iff
  | text s =>
    have hnot : (∃ f, ofName s = .error f) ↔ ∀ severity, ofName s ≠ .ok severity := by
      cases ofName s <;> simp
    simpa [ofValue, ofName_eq_ok_iff] using hnot
  | _ => simp [ofValue]

theorem Reads.unique {v : Value} {s t : Severity} (hs : Reads v s) (ht : Reads v t) : s = t := by
  have heq := (ofValue_eq_ok_iff.mpr hs).symm.trans (ofValue_eq_ok_iff.mpr ht)
  injection heq

theorem not_unreadable {v : Value} {severity : Severity} (h : Reads v severity) : ¬ Unreadable v := by
  rw [← ofValue_eq_error_iff, ofValue_eq_ok_iff.mpr h]
  simp

end Lint.Severity

/-! ### Options -/

namespace Value

/--
The options that a value gives: the fields of an object, and none if the value counts as not given.
-/
inductive Gives : Value → Table Value → Prop where
  | fields (fields : Table Value) : Gives (.object fields) fields
  | nothing {v : Value} (h : v.isGiven = false) : Gives v []

theorem givenOptions_eq_ok_iff {v : Value} {options : Table Value}
    : v.givenOptions = .ok options ↔ v.Gives options := by
  constructor
  . intro h
    unfold givenOptions at h
    split at h
    . cases h
      exact .fields _
    . split at h
      . cases h
      . next hgiven =>
        cases h
        exact .nothing (by simpa using hgiven)
  . intro h
    cases h with
    | fields fields => rfl
    | nothing h =>
      unfold givenOptions
      split
      . next fields => simpa [isGiven] using h
      . rw [h]
        rfl

/--
A value that gives no options at all: it counts as given, and is no object.
-/
def Optionless (v : Value) : Prop :=
  v.isGiven = true ∧ ∀ fields, v ≠ .object fields

theorem givenOptions_eq_error_iff {v : Value} : (∃ m, v.givenOptions = .error m) ↔ v.Optionless := by
  unfold givenOptions Optionless
  split
  . simp
  . next hobject =>
    split
    . next hgiven => simpa [hgiven] using hobject
    . next hgiven => simp [hgiven]

end Value

end CodeAudit
