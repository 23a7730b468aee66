import CodeAudit.Syntax.Lexer
import Mathlib.Data.List.Basic

/-!
This module contains the two notions of a line that the outline of a source text rests on. Lines are counted
by line feeds alone, and scanned with every kind of line end. The two differ by the carriage returns that no
line feed follows.
-/

namespace CodeAudit.Text

/--
How many carriage returns there are that no line feed follows.
-/
def loneReturns : List Char → Nat
  | '\r' :: '\n' :: rest => loneReturns rest
  | '\r' :: rest => loneReturns rest + 1
  | _ :: rest => loneReturns rest
  | [] => 0

theorem length_lines (cs : List Char) : (lines cs).length = cs.count '\n' + 1 := by
  unfold lines List.splitOn
  induction cs with
  | nil => rfl
  | cons c cs ih =>
    rw [List.splitOnP_cons_eq_if_modifyHead, List.count_cons]
    split
    . rw [List.length_cons, ih]
    . rw [List.length_modifyHead, ih]

theorem count_unifyLineEnds (cs : List Char)
    : (unifyLineEnds cs).count '\n' = cs.count '\n' + loneReturns cs := by
  fun_induction unifyLineEnds cs with
  | case1 rest ih =>
    simp [loneReturns, ih]
    omega
  | case2 rest hnot ih =>
    rw [loneReturns]
    . simp [ih]
      omega
    . exact hnot
  | case3 c rest h₁ h₂ ih =>
    rw [loneReturns]
    . simp [List.count_cons, ih]
      omega
    . exact h₁
    . exact h₂
  | case4 => rfl

theorem loneReturns_eq_zero {cs : List Char} (h : '\r' ∉ cs) : loneReturns cs = 0 := by
  fun_induction loneReturns cs with
  | case1 rest ih => simp at h
  | case2 rest hnot ih => simp at h
  | case3 c rest h₁ h₂ ih =>
    apply ih
    exact fun hmem => h (List.mem_cons_of_mem _ hmem)
  | case4 => rfl

theorem return_notMem_unifyLineEnds (cs : List Char) : '\r' ∉ unifyLineEnds cs := by
  fun_induction unifyLineEnds cs with
  | case1 rest ih => simpa using ih
  | case2 rest hnot ih => simpa using ih
  | case3 c rest h₁ h₂ ih =>
    rw [List.mem_cons, not_or]
    refine ⟨?_, ih⟩
    exact fun hc => h₂ hc.symm
  | case4 => simp

/--
The text is empty or its last character is a line feed.
-/
def Terminated (cs : List Char) : Prop :=
  ∀ c, cs.getLast? = some c → c = '\n'

theorem terminated_append_lineFeed (cs : List Char) : Terminated (cs ++ ['\n']) := by
  intro c hc
  simpa using hc.symm

theorem Terminated.of_isSuffix {cs rest : List Char} (h : Terminated cs) (hrest : rest <:+ cs)
    : Terminated rest := by
  intro c hc
  rcases hrest with ⟨used, rfl⟩
  apply h
  rw [List.getLast?_append, hc]
  rfl

theorem Terminated.count_pos {cs : List Char} (h : Terminated cs) (hcs : cs ≠ []) : 0 < cs.count '\n' := by
  have hlast := h _ (List.getLast?_eq_some_getLast hcs)
  rw [List.count_pos_iff, ← hlast]
  exact List.getLast_mem hcs

theorem terminated_cons {c : Char} {cs : List Char} (h : Terminated cs) (hc : cs = [] → c = '\n')
    : Terminated (c :: cs) := by
  intro d hd
  cases cs with
  | nil =>
    rw [List.getLast?_singleton, Option.some.injEq] at hd
    rw [← hd]
    exact hc rfl
  | cons b rest =>
    rw [List.getLast?_cons_cons] at hd
    exact h d hd

theorem unifyLineEnds_eq_nil {cs : List Char} (h : unifyLineEnds cs = []) : cs = [] := by
  unfold unifyLineEnds at h
  split at h
  . cases h
  . cases h
  . cases h
  . rfl

theorem unifyLineEnds_terminated {cs : List Char}
    (h : ∀ c, cs.getLast? = some c → c = '\n' ∨ c = '\r') : Terminated (unifyLineEnds cs) := by
  have hrest : ∀ {a : Char} {rest : List Char},
      (∀ c, (a :: rest).getLast? = some c → c = '\n' ∨ c = '\r') →
      ∀ c, rest.getLast? = some c → c = '\n' ∨ c = '\r' := by
    intro a rest hall c hc
    apply hall
    rw [List.getLast?_cons, hc]
    rfl
  fun_induction unifyLineEnds cs with
  | case1 rest ih => exact terminated_cons (ih (hrest (hrest h))) (fun _ => rfl)
  | case2 rest hnot ih => exact terminated_cons (ih (hrest h)) (fun _ => rfl)
  | case3 c rest h₁ h₂ ih =>
    apply terminated_cons (ih (hrest h))
    intro hnil
    rw [unifyLineEnds_eq_nil hnil] at h
    cases h c rfl with
    | inl hfeed => exact hfeed
    | inr hreturn => exact absurd hreturn h₂
  | case4 => simp [Terminated]

end CodeAudit.Text

namespace CodeAudit.Syntax.Lexer

open Text

theorem physicalText_terminated (cs : List Char) : Terminated (physicalText cs) := by
  unfold physicalText
  dsimp only
  split
  . exact terminated_append_lineFeed _
  . next hcs =>
    apply unifyLineEnds_terminated
    simp [← List.head?_reverse, hcs]
  . next hcs =>
    apply unifyLineEnds_terminated
    simp [← List.head?_reverse, hcs]
  . exact terminated_append_lineFeed _

theorem count_physicalText (cs : List Char)
    : (physicalText cs).count '\n' ≤ (lines (unifyLineEnds cs)).length := by
  rw [length_lines]
  unfold physicalText
  dsimp only
  split
  all_goals simp

end CodeAudit.Syntax.Lexer
