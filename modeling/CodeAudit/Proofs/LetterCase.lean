import CodeAudit.Unicode.Case
import Mathlib.Data.List.Basic

/-!
This module contains the laws of lower case: a text in lower case stays as it is, and only the empty text has
an empty lower case. What the table of lower cases leads to is compared with what it holds, both as sets of
code points that are the bits of a number.
-/

namespace CodeAudit.Unicode

namespace RangeTable

variable {α : Type}

theorem mem_of_find? {t : RangeTable α} {n first : Nat} {a : α} (h : t.find? n = some (first, a))
    : ∃ last, (first, last, a) ∈ t.entries.toList ∧ first ≤ n ∧ n ≤ last := by
  unfold find? at h
  generalize t.entries.size = hi at h
  generalize 0 = lo at h
  fun_induction find?.go t n lo hi with
  | case1 lo hi hlt mid hnone => cases h
  | case2 lo hi hlt mid first' last a' hmid hn ih => exact ih h
  | case3 lo hi hlt mid first' last a' hmid hn hlast ih => exact ih h
  | case4 lo hi hlt mid first' last a' hmid hn hlast =>
    cases h
    refine ⟨last, ?_, Nat.not_lt.mp hn, Nat.not_lt.mp hlast⟩
    rw [Array.mem_toList_iff]
    exact Array.mem_of_getElem? hmid
  | case5 lo hi hlt => cases h

theorem entries_ofText (value : List Char → α) {text : String} {cs : List Char} (h : text = String.ofList cs)
    : (ofText value text).entries.toList = parseEntries value cs := by
  unfold ofText
  rw [h, String.toList_ofList]

theorem exists_value_of_mem_ofText {value : List Char → α} {text : String} {e : Nat × Nat × α}
    (h : e ∈ (ofText value text).entries.toList) : ∃ word, e.2.2 = value word := by
  rcases List.mem_map.mp h with ⟨word, _, rfl⟩
  exact ⟨_, rfl⟩

/--
The ranges of code points that some entries of a table hold.
-/
def domain (entries : List (Nat × Nat × α)) : List (Nat × Nat) :=
  entries.map fun e => (e.1, e.2.1)

/--
The ranges of code points that some entries of a table of cases lead to.
-/
def targets (entries : List (Nat × Nat × List Nat)) : List (Nat × Nat) :=
  entries.flatMap fun e => e.2.2.map fun target => (target, target + (e.2.1 - e.1))

end RangeTable

/-! ### Sets of code points -/

/--
The code point is in one of the ranges.
-/
def InRanges (ranges : List (Nat × Nat)) (n : Nat) : Prop :=
  ∃ range ∈ ranges, range.1 ≤ n ∧ n ≤ range.2

/--
The number whose bits are the code points in some ranges. The ranges are divided `depth` times, so that the
number can be evaluated without deep recursion.
-/
def rangeBits (depth : Nat) (ranges : List (Nat × Nat)) : Nat :=
  match depth with
  | 0 => ranges.foldr (fun range bits => ((1 <<< (range.2 + 1 - range.1) - 1) <<< range.1) ||| bits) 0
  | depth + 1 =>
    rangeBits depth (ranges.take (8 <<< depth)) ||| rangeBits depth (ranges.drop (8 <<< depth))

theorem inRanges_cons {range : Nat × Nat} {ranges : List (Nat × Nat)} {n : Nat}
    : InRanges (range :: ranges) n ↔ (range.1 ≤ n ∧ n ≤ range.2) ∨ InRanges ranges n := by
  unfold InRanges
  rw [List.exists_mem_cons_iff]

theorem testBit_rangeBits {depth : Nat} {ranges : List (Nat × Nat)} {n : Nat} (h : InRanges ranges n)
    : (rangeBits depth ranges).testBit n = true := by
  rcases h with ⟨range, hrange, hfirst, hlast⟩
  induction depth generalizing ranges with
  | zero =>
    unfold rangeBits
    induction ranges with
    | nil => cases hrange
    | cons r ranges ih =>
      rw [List.foldr_cons, Nat.testBit_or, Bool.or_eq_true]
      rcases List.mem_cons.mp hrange with rfl | hmem
      . left
        rw [Nat.testBit_shiftLeft, Nat.one_shiftLeft, Nat.testBit_two_pow_sub_one, Bool.and_eq_true,
          decide_eq_true_eq, decide_eq_true_eq]
        omega
      . exact Or.inr (ih hmem)
  | succ depth ih =>
    unfold rangeBits
    rw [← List.take_append_drop (8 <<< depth) ranges, List.mem_append] at hrange
    rw [Nat.testBit_or, Bool.or_eq_true]
    exact hrange.imp ih ih

theorem not_inRanges {depth : Nat} {ranges ranges' : List (Nat × Nat)}
    (hapart : rangeBits depth ranges &&& rangeBits depth ranges' = 0) {n : Nat} (h : InRanges ranges n)
    : ¬ InRanges ranges' n := by
  intro h'
  have hbit : (rangeBits depth ranges &&& rangeBits depth ranges').testBit n = true := by
    rw [Nat.testBit_and, testBit_rangeBits h, testBit_rangeBits h']
    rfl
  rw [hapart, Nat.zero_testBit] at hbit
  cases hbit

/-! ### Single characters -/

section

variable {t : RangeTable (List Nat)} {c d : Char}

theorem mapCase_eq_self (h : ¬ InRanges (RangeTable.domain t.entries.toList) c.toNat) : mapCase t c = [c] := by
  have hnone : t.find? c.toNat = none := by
    rw [Option.eq_none_iff_forall_ne_some]
    rintro ⟨first, targets⟩ hfind
    rcases RangeTable.mem_of_find? hfind with ⟨last, hmem, hrange⟩
    exact h ⟨(first, last), List.mem_map_of_mem hmem, hrange⟩
  unfold mapCase
  rw [hnone]

theorem mem_mapCase (h : d ∈ mapCase t c)
    : (mapCase t c = [c] ∧ d = c) ∨ ∃ n, InRanges (RangeTable.targets t.entries.toList) n ∧ d = Char.ofNat n := by
  unfold mapCase at h ⊢
  split at h
  . exact Or.inl ⟨rfl, List.mem_singleton.mp h⟩
  . next first target hfind =>
    right
    rcases RangeTable.mem_of_find? hfind with ⟨last, hmem, hfirst, hlast⟩
    refine ⟨target + (c.toNat - first), ?_, List.mem_singleton.mp h⟩
    refine ⟨(target, target + (last - first)), ?_, Nat.le_add_right _ _, ?_⟩
    . exact List.mem_flatMap.mpr ⟨_, hmem, List.mem_map_of_mem List.mem_cons_self⟩
    . dsimp only
      omega
  . next first targets _ hfind =>
    right
    rcases RangeTable.mem_of_find? hfind with ⟨last, hmem, hfirst, hlast⟩
    rcases List.mem_map.mp h with ⟨target, htarget, rfl⟩
    refine ⟨target, ?_, rfl⟩
    refine ⟨(target, target + (last - first)), ?_, Nat.le_refl _, Nat.le_add_right _ _⟩
    exact List.mem_flatMap.mpr ⟨_, hmem, List.mem_map_of_mem htarget⟩

theorem mapCase_ne_nil (ht : ∀ e ∈ t.entries.toList, e.2.2 ≠ []) (c : Char) : mapCase t c ≠ [] := by
  unfold mapCase
  split
  . exact List.cons_ne_nil _ _
  . exact List.cons_ne_nil _ _
  . next hfind =>
    rcases RangeTable.mem_of_find? hfind with ⟨last, hmem, _⟩
    rw [ne_eq, List.map_eq_nil_iff]
    exact ht _ hmem

end

/--
The code points outside ASCII that lower case can leave for another one, by the entries of the table. The
small sigmas also come from a capital sigma.
-/
def lowered (entries : List (Nat × Nat × List Nat)) : List (Nat × Nat) :=
  (0x3c2, 0x3c3) :: RangeTable.targets entries

/--
The code points that have a lower case, by the entries of the table.
-/
def raised (entries : List (Nat × Nat × List Nat)) : List (Nat × Nat) :=
  (0x41, 0x5a) :: (0x3a3, 0x3a3) :: RangeTable.domain entries

theorem inRanges_lowered {entries : List (Nat × Nat × List Nat)} {n : Nat}
    : InRanges (lowered entries) n ↔ (0x3c2 ≤ n ∧ n ≤ 0x3c3) ∨ InRanges (RangeTable.targets entries) n :=
  inRanges_cons

theorem inRanges_raised {entries : List (Nat × Nat × List Nat)} {n : Nat}
    : InRanges (raised entries) n ↔
        (0x41 ≤ n ∧ n ≤ 0x5a) ∨ n = 0x3a3 ∨ InRanges (RangeTable.domain entries) n := by
  unfold raised
  rw [inRanges_cons, inRanges_cons, Nat.eq_iff_le_and_ge, and_comm (a := 0x3a3 ≤ n)]

set_option maxRecDepth 100000 in
theorem lowerCases_apart
    : rangeBits 7 (lowered lowerCases.entries.toList) &&& rangeBits 7 (raised lowerCases.entries.toList) = 0 := by
  -- The entries are evaluated from a list of characters, into which the text of the table is turned first.
  have hentries : ∃ cs, lowerCases.entries.toList = RangeTable.parseEntries caseTargets cs ∧
      rangeBits 7 (lowered (RangeTable.parseEntries caseTargets cs)) &&&
        rangeBits 7 (raised (RangeTable.parseEntries caseTargets cs)) = 0 :=
    ⟨_, RangeTable.entries_ofText caseTargets rfl, by decide +kernel⟩
  rcases hentries with ⟨cs, hcs, hapart⟩
  rw [hcs]
  exact hapart

/--
A character that lower case leaves as it is.
-/
def Settled (c : Char) : Prop :=
  lowerChar c = [c] ∧ c.toNat ≠ 0x3a3

theorem settled_of_ascii {c : Char} (hc : c.toNat < 128) (hraised : ¬ (0x41 ≤ c.toNat ∧ c.toNat ≤ 0x5a))
    : Settled c := by
  have hall : ∀ n < 128, ¬ (0x41 ≤ n ∧ n ≤ 0x5a) → (Char.ofNat n).toLower = Char.ofNat n := by
    decide
  have hlower := hall c.toNat hc hraised
  rw [Char.ofNat_toNat] at hlower
  unfold Settled lowerChar
  rw [if_pos hc, hlower]
  exact ⟨rfl, by omega⟩

theorem settled_toLower {c : Char} (hc : c.toNat < 128) : Settled c.toLower := by
  have hall : ∀ n < 128, (Char.ofNat n).toLower.toNat < 128 ∧
      ¬ (0x41 ≤ (Char.ofNat n).toLower.toNat ∧ (Char.ofNat n).toLower.toNat ≤ 0x5a) := by
    decide
  have hlower := hall c.toNat hc
  rw [Char.ofNat_toNat] at hlower
  exact settled_of_ascii hlower.1 hlower.2

theorem settled_of_not_raised {c : Char} (h : ¬ InRanges (raised lowerCases.entries.toList) c.toNat)
    : Settled c := by
  rw [inRanges_raised, not_or, not_or] at h
  by_cases hc : c.toNat < 128
  . exact settled_of_ascii hc h.1
  . refine ⟨?_, h.2.1⟩
    unfold lowerChar
    rw [if_neg hc, mapCase_eq_self h.2.2]

theorem toNat_ofNat (n : Nat) : (Char.ofNat n).toNat = n ∨ (Char.ofNat n).toNat = 0 := by
  unfold Char.ofNat
  by_cases hvalid : n.isValidChar
  . left
    rw [dif_pos hvalid]
    rfl
  . right
    rw [dif_neg hvalid]
    rfl

theorem settled_ofNat {n : Nat} (h : InRanges (lowered lowerCases.entries.toList) n) : Settled (Char.ofNat n) := by
  rcases toNat_ofNat n with hn | hzero
  . apply settled_of_not_raised
    rw [hn]
    exact not_inRanges lowerCases_apart h
  . apply settled_of_ascii
    . omega
    . omega

theorem settled_of_mem_lowerChar {c d : Char} (hc : c.toNat ≠ 0x3a3) (h : d ∈ lowerChar c) : Settled d := by
  by_cases hascii : c.toNat < 128
  . unfold lowerChar at h
    rw [if_pos hascii] at h
    rw [List.mem_singleton.mp h]
    exact settled_toLower hascii
  . unfold lowerChar at h
    rw [if_neg hascii] at h
    rcases mem_mapCase h with ⟨hself, rfl⟩ | ⟨n, hn, rfl⟩
    . refine ⟨?_, hc⟩
      unfold lowerChar
      rw [if_neg hascii, hself]
    . exact settled_ofNat (inRanges_lowered.mpr (Or.inr hn))

theorem caseTargets_ne_nil (cs : List Char) : caseTargets cs ≠ [] := by
  simp [caseTargets, List.splitOn]

theorem lowerCases_targets_ne_nil : ∀ e ∈ lowerCases.entries.toList, e.2.2 ≠ [] := by
  intro e he
  unfold lowerCases at he
  rcases RangeTable.exists_value_of_mem_ofText he with ⟨word, hword⟩
  rw [hword]
  exact caseTargets_ne_nil word

theorem lowerChar_ne_nil (c : Char) : lowerChar c ≠ [] := by
  unfold lowerChar
  split
  . exact List.cons_ne_nil _ _
  . exact mapCase_ne_nil lowerCases_targets_ne_nil c

/-! ### Texts -/

theorem lower_go_of_settled {cs : List Char} (h : ∀ c ∈ cs, Settled c) (before : List Char)
    : lower.go before cs = cs := by
  induction cs generalizing before with
  | nil => rfl
  | cons c cs ih =>
    rw [List.forall_mem_cons] at h
    rw [lower.go, ih h.2, if_neg (by simpa using h.1.2), h.1.1]
    rfl

theorem lower_go_settled {before cs : List Char} : ∀ c ∈ lower.go before cs, Settled c := by
  induction cs generalizing before with
  | nil => exact List.forall_mem_nil _
  | cons c cs ih =>
    have hsigma : ∀ n, 0x3c2 ≤ n ∧ n ≤ 0x3c3 → Settled (Char.ofNat n) := by
      intro n hn
      exact settled_ofNat (inRanges_lowered.mpr (Or.inl hn))
    rw [lower.go]
    refine List.forall_mem_append.mpr ⟨?_, ih⟩
    split
    . split
      . exact List.forall_mem_singleton.mpr (hsigma _ (by decide))
      . exact List.forall_mem_singleton.mpr (hsigma _ (by decide))
    . next hc =>
      intro d hd
      exact settled_of_mem_lowerChar (by simpa using hc) hd

theorem lower_lower (s : String) : lower (lower s) = lower s := by
  unfold lower
  rw [String.toList_ofList, lower_go_of_settled lower_go_settled]

theorem lower_eq_empty {s : String} (h : lower s = "") : s = "" := by
  unfold lower at h
  rw [← String.toList_inj, String.toList_ofList] at h
  rw [← String.toList_inj]
  cases hs : s.toList with
  | nil => rfl
  | cons c rest =>
    rw [hs, lower.go] at h
    have hlow := (List.append_eq_nil_iff.mp h).1
    split at hlow
    . split at hlow
      . cases hlow
      . cases hlow
    . exact absurd hlow (lowerChar_ne_nil c)

end CodeAudit.Unicode
