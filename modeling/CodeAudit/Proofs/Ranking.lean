import CodeAudit.Proofs.Question

/-!
This module contains how a question to a language model lists complex functions: the most complex ones first,
and those of one complexity in the order in which they stand in the outline.
-/

namespace CodeAudit.Assist

/--
A function or method whose complexity exceeds a threshold.
-/
def IsComplex (threshold : Int) (e : Entry) : Prop :=
  (e.kind = .function ∨ e.kind = .method) ∧ threshold < e.complexity

instance (threshold : Int) : DecidablePred (IsComplex threshold) :=
  fun e => inferInstanceAs (Decidable ((e.kind = .function ∨ e.kind = .method) ∧ threshold < e.complexity))

theorem complexEntries_int (threshold : Int) (es : List Entry)
    : complexEntries (.int threshold) es = .ok (es.filter (IsComplex threshold)) := by
  rw [complexEntries_eq]
  congr 1
  apply List.filter_congr
  intro e he
  rw [Bool.eq_iff_iff, decide_eq_true_eq]
  simp [Lint.functionKinds, IsComplex]

/-! ### Order -/

/--
The entries in a new order: the most complex ones first, and the entries of one complexity as they stood.
-/
structure Ranks (es ranked : List Entry) : Prop where
  perm : ranked.Perm es
  descending : ranked.Pairwise fun a b => b.complexity ≤ a.complexity
  stable : ∀ k, ranked.filter (fun e => e.complexity = k) = es.filter (fun e => e.complexity = k)

theorem byComplexity_trans (a b c : Entry) (hab : decide (b.complexity ≤ a.complexity) = true)
    (hbc : decide (c.complexity ≤ b.complexity) = true) : decide (c.complexity ≤ a.complexity) = true := by
  simp only [decide_eq_true_eq] at hab hbc ⊢
  omega

theorem byComplexity_total (a b : Entry)
    : (decide (b.complexity ≤ a.complexity) || decide (a.complexity ≤ b.complexity)) = true := by
  simp only [Bool.or_eq_true, decide_eq_true_eq]
  omega

theorem byComplexity_perm (es : List Entry) : (byComplexity es).Perm es :=
  List.mergeSort_perm es _

theorem byComplexity_descending (es : List Entry)
    : (byComplexity es).Pairwise fun a b => b.complexity ≤ a.complexity := by
  have h := List.pairwise_mergeSort byComplexity_trans byComplexity_total es
  unfold byComplexity
  simpa only [decide_eq_true_eq] using h

theorem byComplexity_stable (es : List Entry) (k : Int)
    : (byComplexity es).filter (fun e => e.complexity = k) = es.filter (fun e => e.complexity = k) := by
  -- Entries of one complexity are in order as they stand, so the sort keeps them one after the other.
  have hsorted : (es.filter fun e => e.complexity = k).Pairwise
      fun a b => decide (b.complexity ≤ a.complexity) = true := by
    apply List.pairwise_of_forall_mem_list
    intro a ha b hb
    have hka := List.of_mem_filter ha
    have hkb := List.of_mem_filter hb
    simp only [decide_eq_true_eq] at hka hkb ⊢
    omega
  have hsub : (es.filter fun e => e.complexity = k).Sublist (byComplexity es) := by
    apply List.sublist_mergeSort byComplexity_trans byComplexity_total hsorted
    apply List.filter_sublist
  -- They are all that the sorted list has of this complexity, since it has as many.
  have hsub' := hsub.filter fun e => decide (e.complexity = k)
  rw [List.filter_filter] at hsub'
  simp only [Bool.and_self] at hsub'
  apply Eq.symm
  apply hsub'.eq_of_length
  apply List.Perm.length_eq
  apply List.Perm.filter
  exact (byComplexity_perm es).symm

theorem byComplexity_ranks (es : List Entry) : Ranks es (byComplexity es) where
  perm := byComplexity_perm es
  descending := byComplexity_descending es
  stable := byComplexity_stable es

/-! ### Text -/

theorem complexityText_eq (o : Outline) (threshold : Int)
    : let es := o.entries.filter (IsComplex threshold)
      complexityText o (.int threshold) =
        .ok (if es = [] then "无高复杂度函数" else joinLines ((byComplexity es).map complexLine)) := by
  unfold complexityText
  rw [complexEntries_int]
  simp only [List.isEmpty_iff]
  rfl

theorem head?_joinLines {line : String} {c : Char} (h : line.toList.head? = some c) (lines : List String)
    : (joinLines (line :: lines)).toList.head? = some c := by
  unfold joinLines
  rw [String.toList_intercalate, List.map_cons]
  cases lines with
  | nil => simpa using h
  | cons next rest =>
    rw [List.map_cons, List.intercalate_cons_cons, List.append_assoc, List.head?_append, h]
    rfl

theorem head?_complexLine (e : Entry) : (complexLine e).toList.head? = some '-' := by
  simp [complexLine]

theorem joinLines_complexLine_ne (e : Entry) (es : List Entry)
    : joinLines ((e :: es).map complexLine) ≠ "无高复杂度函数" := by
  intro h
  have hhead := head?_joinLines (head?_complexLine e) (es.map complexLine)
  rw [← List.map_cons, h] at hhead
  simp at hhead

/--
The text about complexity has one line for each function and method above the threshold and no other line. The
entries are ranked in it, and it says that there are none exactly if there are none.
-/
theorem complexityText_ranks (o : Outline) (threshold : Int)
    : ∃ ranked, Ranks (o.entries.filter (IsComplex threshold)) ranked ∧
        complexityText o (.int threshold) =
          .ok (if ranked = [] then "无高复杂度函数" else joinLines (ranked.map complexLine)) ∧
        (complexityText o (.int threshold) = .ok "无高复杂度函数" ↔
          ∀ e ∈ o.entries, ¬ IsComplex threshold e) := by
  have hranks := byComplexity_ranks (o.entries.filter (IsComplex threshold))
  have hnil : byComplexity (o.entries.filter (IsComplex threshold)) = [] ↔
      o.entries.filter (IsComplex threshold) = [] := by
    constructor
    . intro h
      have hperm := hranks.perm
      rw [h] at hperm
      exact hperm.symm.eq_nil
    . intro h
      rw [h]
      exact List.mergeSort_nil
  refine ⟨_, hranks, ?_, ?_⟩
  . rw [complexityText_eq]
    simp only [hnil]
  . rw [complexityText_eq]
    have hnone : o.entries.filter (IsComplex threshold) = [] ↔ ∀ e ∈ o.entries, ¬ IsComplex threshold e := by
      simp [List.filter_eq_nil_iff]
    rw [← hnone]
    split
    . next h => simp [h]
    . next h =>
      simp only [h, iff_false, Except.ok.injEq]
      cases hes : byComplexity (o.entries.filter (IsComplex threshold)) with
      | nil => exact absurd (hnil.mp hes) h
      | cons e es => exact joinLines_complexLine_ne e es

-- A tie between the first and the last entry, and a class that is no function.
example
    : complexityText
        { path := "", language := "python"
          entries :=
            [{ kind := .function, name := "a", firstLine := 1, lastLine := 2, complexity := 7 },
              { kind := .method, name := "b", firstLine := 4, lastLine := 5, complexity := 9 },
              { kind := .class_, name := "C", firstLine := 3, lastLine := 5, complexity := 8 },
              { kind := .function, name := "d", firstLine := 6, lastLine := 8, complexity := 7 }] } =
        .ok "- `b`: 复杂度 9 (行 4-5)\n- `a`: 复杂度 7 (行 1-2)\n- `d`: 复杂度 7 (行 6-8)" := by
  cbv

end CodeAudit.Assist
