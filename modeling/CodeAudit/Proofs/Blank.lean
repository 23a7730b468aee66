import CodeAudit.Proofs.LetterCase
import CodeAudit.Text.Blank
import Mathlib.Data.List.TakeWhile

/-!
This module contains the laws of blanks: which characters are blank, and that only blanks at the ends of a text are
taken away from it.
-/

namespace CodeAudit.Text

/--
The blank code points, as ranges.
-/
def blankRanges : List (Nat × Nat) :=
  [(9, 13), (0x1c, 0x20), (0x85, 0x85), (0xa0, 0xa0), (0x1680, 0x1680), (0x2000, 0x200a), (0x2028, 0x2029),
    (0x202f, 0x202f), (0x205f, 0x205f), (0x3000, 0x3000)]

theorem isBlank_iff (c : Char) : isBlank c = true ↔ Unicode.InRanges blankRanges c.toNat := by
  unfold isBlank Unicode.InRanges blankRanges
  simp only [Bool.or_eq_true, Bool.and_eq_true, decide_eq_true_eq, beq_iff_eq, List.mem_cons, List.not_mem_nil,
    or_false, exists_eq_or_imp, exists_eq_left]
  omega

theorem isDigit_of_isBlank {c : Char} (h : isBlank c = true) : c.isDigit = false := by
  unfold isBlank at h
  simp only [Bool.or_eq_true, Bool.and_eq_true, decide_eq_true_eq, beq_iff_eq] at h
  rw [← Bool.not_eq_true, Char.isDigit_iff_toNat]
  change ¬ (48 ≤ c.toNat ∧ c.toNat ≤ 57)
  omega

/-! ### Texts without blanks at their ends -/

theorem exists_strip (cs : List Char)
    : ∃ before after, cs = before ++ strip cs ++ after ∧ before.all isBlank = true ∧ after.all isBlank = true := by
  refine ⟨cs.takeWhile isBlank, ((stripStart cs).reverse.takeWhile isBlank).reverse, ?_, ?_, ?_⟩
  . unfold strip stripEnd
    rw [List.append_assoc, ← List.reverse_append, List.takeWhile_append_dropWhile, List.reverse_reverse]
    unfold stripStart
    rw [List.takeWhile_append_dropWhile]
  . simp
  . simp

theorem stripStart_append {before cs : List Char} (hbefore : before.all isBlank = true)
    (hhead : ∀ c ∈ cs.head?, isBlank c = false) : stripStart (before ++ cs) = cs := by
  unfold stripStart
  rw [List.dropWhile_append_of_pos (List.all_eq_true.mp hbefore)]
  cases cs with
  | nil => rfl
  | cons c cs => simp [hhead c rfl]

/--
A text that is not empty and has no blanks at its ends.
-/
structure Trimmed (cs : List Char) : Prop where
  ne_nil : cs ≠ []
  head : ∀ c ∈ cs.head?, isBlank c = false
  last : ∀ c ∈ cs.getLast?, isBlank c = false

theorem Trimmed.one {c : Char} (h : isBlank c = false) : Trimmed [c] := by
  constructor <;> simp [h]

theorem Trimmed.cons {c : Char} {cs : List Char} (h : isBlank c = false) (hcs : Trimmed cs) : Trimmed (c :: cs) := by
  constructor
  . simp
  . simp [h]
  . rw [List.getLast?_cons_of_ne_nil hcs.ne_nil]
    exact hcs.last

/--
Only the blanks at the ends of a text are taken away from it.
-/
theorem Trimmed.strip_append {before cs after : List Char} (h : Trimmed cs) (hbefore : before.all isBlank = true)
    (hafter : after.all isBlank = true) : strip (before ++ cs ++ after) = cs := by
  have hstart : stripStart (before ++ cs ++ after) = cs ++ after := by
    rw [List.append_assoc]
    apply stripStart_append hbefore
    rw [List.head?_append_of_ne_nil _ h.ne_nil]
    exact h.head
  have hend : stripStart (after.reverse ++ cs.reverse) = cs.reverse := by
    apply stripStart_append
    . rwa [List.all_reverse]
    . rw [List.head?_reverse]
      exact h.last
  unfold strip
  rw [hstart]
  change (stripStart (cs ++ after).reverse).reverse = cs
  rw [List.reverse_append, hend, List.reverse_reverse]

theorem strip_eq_nil_iff (cs : List Char) : strip cs = [] ↔ cs.all isBlank = true := by
  constructor
  . intro hnil
    rcases exists_strip cs with ⟨before, after, heq, hbefore, hafter⟩
    rw [heq, hnil, List.append_nil, List.all_append, hbefore, hafter]
    rfl
  . intro hblank
    unfold strip stripStart
    rw [List.dropWhile_eq_nil_iff.mpr (List.all_eq_true.mp hblank)]
    rfl

end CodeAudit.Text
