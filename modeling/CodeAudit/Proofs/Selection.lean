import CodeAudit.Assist.Selection
import CodeAudit.Proofs.Blank
import Mathlib.Data.Nat.Digits.Defs

/-!
This module contains how a person comes to a model. The first answer that stands for a model decides, and all answers
before it are passed over: those that are no whole number, and those that are one that no model has.
-/

namespace CodeAudit.Assist

/-! ### Whole numbers -/

/--
Digits of any script and their values. A single low line may stand between two of them.
-/
inductive Digits : List Char → List Nat → Prop where
  | one {c : Char} {d : Nat} (h : Unicode.decimalValue? c = some d) : Digits [c] [d]
  | next {c : Char} {d : Nat} {cs : List Char} {ds : List Nat} (h : Unicode.decimalValue? c = some d)
    (hrest : Digits cs ds) : Digits (c :: cs) (d :: ds)
  | spaced {c : Char} {d : Nat} {cs : List Char} {ds : List Nat} (h : Unicode.decimalValue? c = some d)
    (hrest : Digits cs ds) : Digits (c :: '_' :: cs) (d :: ds)

/--
A natural number in decimal digits, which may not be too many.
-/
inductive Natural : List Char → Nat → Prop where
  | digits {cs : List Char} {ds : List Nat} (h : Digits cs ds) (hlength : ds.length ≤ maxDigits)
    : Natural cs (Nat.ofDigits 10 ds.reverse)

/--
A whole number, with a sign or without.
-/
inductive Numeral : List Char → Int → Prop where
  | unsigned {cs : List Char} {n : Nat} (h : Natural cs n) : Numeral cs n
  | plus {cs : List Char} {n : Nat} (h : Natural cs n) : Numeral ('+' :: cs) n
  | minus {cs : List Char} {n : Nat} (h : Natural cs n) : Numeral ('-' :: cs) (-n)

theorem Digits.exists_head {cs : List Char} {ds : List Nat} (h : Digits cs ds)
    : ∃ c rest d, cs = c :: rest ∧ Unicode.decimalValue? c = some d := by
  cases h with
  | one h => exact ⟨_, _, _, rfl, h⟩
  | next h _ => exact ⟨_, _, _, rfl, h⟩
  | spaced h _ => exact ⟨_, _, _, rfl, h⟩

theorem digitValues?_cons_cons {c c' : Char} (h : c' ≠ '_') (rest : List Char)
    : digitValues? (c :: c' :: rest) = (Unicode.decimalValue? c).bind fun d =>
        (digitValues? (c' :: rest)).bind fun ds => some (d :: ds) := by
  rw [digitValues?]
  . rfl
  . simp
  . simpa using h

theorem digitValues?_of_digits {cs : List Char} {ds : List Nat} (h : Digits cs ds) : digitValues? cs = some ds := by
  induction h with
  | one h => simp [digitValues?, h]
  | spaced h _ ih => simp [digitValues?, h, ih]
  | next h hrest ih =>
    -- What follows starts with a digit, which is no low line.
    rcases hrest.exists_head with ⟨c, rest, d, rfl, hc⟩
    have hne : c ≠ '_' := by
      rintro rfl
      cases hc
    rw [digitValues?_cons_cons hne, h, ih]
    rfl

theorem digits_of_digitValues? {cs : List Char} {ds : List Nat} (h : digitValues? cs = some ds) : Digits cs ds := by
  fun_induction digitValues? cs generalizing ds with
  | case1 => cases h
  | case2 c =>
    rcases Option.map_eq_some_iff.mp h with ⟨d, hd, rfl⟩
    apply Digits.one hd
  | case3 c rest ih =>
    rcases Option.bind_eq_some_iff.mp h with ⟨d, hd, h⟩
    rcases Option.bind_eq_some_iff.mp h with ⟨ds, hds, h⟩
    cases h
    apply Digits.spaced hd (ih hds)
  | case4 c rest h1 h2 ih =>
    rcases Option.bind_eq_some_iff.mp h with ⟨d, hd, h⟩
    rcases Option.bind_eq_some_iff.mp h with ⟨ds, hds, h⟩
    cases h
    apply Digits.next hd (ih hds)

theorem foldl_eq_ofDigits (ds : List Nat)
    : ds.foldl (fun n d => 10 * n + d) 0 = Nat.ofDigits 10 ds.reverse := by
  rw [Nat.ofDigits_eq_foldr, List.foldr_reverse]
  simp [Nat.add_comm]

/--
Read a natural number.
-/
def naturalNumber? (cs : List Char) : Option Nat :=
  (digitValues? cs).bind fun ds =>
    if maxDigits < ds.length then none else some (ds.foldl (fun n d => 10 * n + d) 0)

theorem naturalNumber?_eq_some_iff {cs : List Char} {n : Nat} : naturalNumber? cs = some n ↔ Natural cs n := by
  constructor
  . intro h
    rcases Option.bind_eq_some_iff.mp h with ⟨ds, hds, h⟩
    split at h
    . cases h
    . next hlength =>
      cases h
      rw [foldl_eq_ofDigits]
      apply Natural.digits (digits_of_digitValues? hds) (Nat.le_of_not_lt hlength)
  . rintro ⟨h, hlength⟩
    unfold naturalNumber?
    rw [digitValues?_of_digits h, Option.bind_some, if_neg (Nat.not_lt.mpr hlength), foldl_eq_ofDigits]

/--
A whole number is read as a natural number after its sign.
-/
theorem wholeNumber?_eq (cs : List Char)
    : ∃ negative digits,
        wholeNumber? cs = (naturalNumber? digits).map (fun n : Nat => if negative then -(n : Int) else n) ∧
        (cs = '-' :: digits ∧ negative = true ∨ cs = '+' :: digits ∧ negative = false ∨
          cs = digits ∧ negative = false ∧ cs.head? ≠ some '-' ∧ cs.head? ≠ some '+') := by
  unfold wholeNumber? naturalNumber?
  split
  next negative digits heq =>
  refine ⟨negative, digits, ?_, ?_⟩
  . cases digitValues? digits with
    | none => rfl
    | some ds => by_cases hlength : maxDigits < ds.length <;> simp [hlength]
  . split at heq
    . cases heq
      exact .inl ⟨rfl, rfl⟩
    . cases heq
      exact .inr (.inl ⟨rfl, rfl⟩)
    . next hminus hplus =>
      cases heq
      refine .inr (.inr ⟨rfl, rfl, ?_, ?_⟩)
      . intro hhead
        rcases List.head?_eq_some_iff.mp hhead with ⟨rest, rfl⟩
        exact hminus rest rfl
      . intro hhead
        rcases List.head?_eq_some_iff.mp hhead with ⟨rest, rfl⟩
        exact hplus rest rfl

theorem Natural.head_ne {cs : List Char} {n : Nat} (h : Natural cs n) {c : Char} (hc : Unicode.decimalValue? c = none)
    (rest : List Char) : cs ≠ c :: rest := by
  rintro rfl
  cases h with
  | digits h _ =>
    rcases h.exists_head with ⟨c', rest', d, heq, hd⟩
    cases heq
    rw [hc] at hd
    cases hd

theorem numeral_of_wholeNumber? {cs : List Char} {k : Int} (h : wholeNumber? cs = some k) : Numeral cs k := by
  rcases wholeNumber?_eq cs with ⟨negative, digits, heq, hsign⟩
  rw [heq] at h
  rcases Option.map_eq_some_iff.mp h with ⟨n, hn, rfl⟩
  rw [naturalNumber?_eq_some_iff] at hn
  rcases hsign with ⟨rfl, rfl⟩ | ⟨rfl, rfl⟩ | ⟨rfl, rfl, -⟩
  . apply Numeral.minus hn
  . apply Numeral.plus hn
  . apply Numeral.unsigned hn

theorem wholeNumber?_of_numeral {cs : List Char} {k : Int} (h : Numeral cs k) : wholeNumber? cs = some k := by
  rcases wholeNumber?_eq cs with ⟨negative, digits, heq, hsign⟩
  rw [heq]
  cases h with
  | unsigned h =>
    -- Digits do not start with a sign, which has no value.
    rcases hsign with ⟨rfl, rfl⟩ | ⟨rfl, rfl⟩ | ⟨rfl, rfl, -⟩
    . exact absurd rfl (h.head_ne rfl digits)
    . exact absurd rfl (h.head_ne rfl digits)
    . simp [naturalNumber?_eq_some_iff.mpr h]
  | plus h =>
    rcases hsign with ⟨hcs, -⟩ | ⟨hcs, rfl⟩ | ⟨-, -, -, hplus⟩
    . cases hcs
    . cases hcs
      simp [naturalNumber?_eq_some_iff.mpr h]
    . exact absurd rfl hplus
  | minus h =>
    rcases hsign with ⟨hcs, rfl⟩ | ⟨hcs, -⟩ | ⟨-, -, hminus, -⟩
    . cases hcs
      simp [naturalNumber?_eq_some_iff.mpr h]
    . cases hcs
    . exact absurd rfl hminus

/-! ### Lines -/

/--
A line with a whole number, around which there may be blanks.
-/
def ReadsAs (line : List Char) (k : Int) : Prop :=
  ∃ before cs after, line = before ++ cs ++ after ∧ before.all Text.isBlank = true ∧ after.all Text.isBlank = true ∧
    Numeral cs k

set_option maxRecDepth 100000 in
theorem decimalRuns_apart
    : Unicode.rangeBits 3 (Unicode.RangeTable.domain Unicode.decimalRuns.entries.toList) &&&
        Unicode.rangeBits 3 Text.blankRanges = 0 := by
  -- As for the table of lower cases, the text of the table is turned into a list of characters first.
  have hentries : ∃ cs, Unicode.decimalRuns.entries.toList = Unicode.RangeTable.parseEntries (fun _ => ()) cs ∧
      Unicode.rangeBits 3 (Unicode.RangeTable.domain (Unicode.RangeTable.parseEntries (fun _ => ()) cs)) &&&
        Unicode.rangeBits 3 Text.blankRanges = 0 :=
    ⟨_, Unicode.RangeTable.entries_ofText (fun _ => ()) rfl, by decide +kernel⟩
  rcases hentries with ⟨cs, hcs, hapart⟩
  rw [hcs]
  exact hapart

/--
No digit is blank.
-/
theorem isBlank_of_decimalValue? {c : Char} {d : Nat} (h : Unicode.decimalValue? c = some d)
    : Text.isBlank c = false := by
  rw [← Bool.not_eq_true]
  unfold Unicode.decimalValue? at h
  split at h
  . split at h
    . next hdigit =>
      intro hblank
      rw [Text.isDigit_of_isBlank hblank] at hdigit
      cases hdigit
    . cases h
  . rcases Option.map_eq_some_iff.mp h with ⟨⟨first, _⟩, hfind, -⟩
    rcases Unicode.RangeTable.mem_of_find? hfind with ⟨last, hmem, hfirst, hlast⟩
    rw [Text.isBlank_iff]
    apply Unicode.not_inRanges decimalRuns_apart
    exact ⟨(first, last), List.mem_map.mpr ⟨_, hmem, rfl⟩, hfirst, hlast⟩

theorem Digits.trimmed {cs : List Char} {ds : List Nat} (h : Digits cs ds) : Text.Trimmed cs := by
  induction h with
  | one h => apply Text.Trimmed.one (isBlank_of_decimalValue? h)
  | next h _ ih => apply Text.Trimmed.cons (isBlank_of_decimalValue? h) ih
  | spaced h _ ih => apply Text.Trimmed.cons (isBlank_of_decimalValue? h) (Text.Trimmed.cons rfl ih)

theorem Natural.trimmed {cs : List Char} {n : Nat} (h : Natural cs n) : Text.Trimmed cs := by
  cases h with
  | digits h _ => apply h.trimmed

theorem Numeral.trimmed {cs : List Char} {k : Int} (h : Numeral cs k) : Text.Trimmed cs := by
  cases h with
  | unsigned h => apply h.trimmed
  | plus h => apply Text.Trimmed.cons rfl h.trimmed
  | minus h => apply Text.Trimmed.cons rfl h.trimmed

/--
The whole numbers of lines are the ones that are read once the blanks at the ends are taken away.
-/
theorem wholeNumber?_strip_iff {line : List Char} {k : Int}
    : wholeNumber? (Text.strip line) = some k ↔ ReadsAs line k := by
  constructor
  . intro h
    rcases Text.exists_strip line with ⟨before, after, heq, hbefore, hafter⟩
    exact ⟨before, Text.strip line, after, heq, hbefore, hafter, numeral_of_wholeNumber? h⟩
  . rintro ⟨before, cs, after, rfl, hbefore, hafter, h⟩
    rw [h.trimmed.strip_append hbefore hafter]
    apply wholeNumber?_of_numeral h

theorem strip_ne_nil_of_readsAs {line : List Char} {k : Int} (h : ReadsAs line k) : Text.strip line ≠ [] := by
  intro hnil
  have hnumber := wholeNumber?_strip_iff.mpr h
  rw [hnil] at hnumber
  cases hnumber

theorem choiceOf_blank {count : Nat} (hcount : 1 ≤ count) {line : List Char} (h : line.all Text.isBlank = true)
    : choiceOf count line = .model 0 := by
  have hone : wholeNumber? ['1'] = some 1 := by
    decide
  unfold choiceOf
  rw [(Text.strip_eq_nil_iff line).mpr h]
  simp [hone, hcount]

theorem choiceOf_number (count : Nat) {line : List Char} {k : Int} (h : ReadsAs line k)
    : choiceOf count line = if 1 ≤ k ∧ k ≤ count then .model (k - 1).toNat else .outOfRange := by
  unfold choiceOf
  simp [strip_ne_nil_of_readsAs h, wholeNumber?_strip_iff.mpr h]

theorem choiceOf_noNumber (count : Nat) {line : List Char} (hblank : line.all Text.isBlank = false)
    (h : ∀ k, ¬ ReadsAs line k) : choiceOf count line = .noNumber := by
  have hne : Text.strip line ≠ [] := by
    rw [ne_eq, Text.strip_eq_nil_iff, hblank]
    simp
  have hnone : wholeNumber? (Text.strip line) = none := by
    rw [Option.eq_none_iff_forall_ne_some]
    intro k hk
    exact h k (wholeNumber?_strip_iff.mp hk)
  unfold choiceOf
  simp [hne, hnone]

/-! ### Answers -/

/--
The recommended model with this number, as the menu counts them.
-/
def Nth (k : Int) (name : String) : Prop :=
  1 ≤ k ∧ (recommendedModels[(k - 1).toNat]?).map (·.2.name) = some (.text name)

/--
An answer that stands for a model: a blank line and an interrupt for the first one, and a number for the one that has
it.
-/
inductive Accepted : Answer → String → Prop where
  | blank {s name : String} (h : s.toList.all Text.isBlank = true) (hname : Nth 1 name) : Accepted (.line s) name
  | number {s name : String} {k : Int} (h : ReadsAs s.toList k) (hname : Nth k name) : Accepted (.line s) name
  | interrupt {name : String} (hname : Nth 1 name) : Accepted .interrupt name

/--
An answer that stands for no model: a line that is no number, or one with a number that no model has.
-/
inductive Rejected : Answer → Prop where
  | noNumber {s : String} (hblank : s.toList.all Text.isBlank = false) (h : ∀ k, ¬ ReadsAs s.toList k)
    : Rejected (.line s)
  | outOfRange {s : String} {k : Int} (h : ReadsAs s.toList k) (hrange : k < 1 ∨ recommendedModels.length < k)
    : Rejected (.line s)

theorem nth_iff {k : Int} {name : String}
    : Nth k name ↔ 1 ≤ k ∧ recommendedModels.names[(k - 1).toNat]? = some name := by
  have hnames : recommendedModels.map (·.2.name) = recommendedModels.names.map .text := by
    rfl
  unfold Nth
  rw [← List.getElem?_map, hnames, List.getElem?_map]
  simp

theorem exists_nth {k : Int} (hlow : 1 ≤ k) (hhigh : k ≤ recommendedModels.length) : ∃ name, Nth k name := by
  have hplace : (k - 1).toNat < recommendedModels.names.length := by
    unfold Table.names
    rw [List.length_map]
    omega
  exact ⟨_, nth_iff.mpr ⟨hlow, List.getElem?_eq_getElem hplace⟩⟩

theorem Nth.le_length {k : Int} {name : String} (h : Nth k name) : k ≤ recommendedModels.names.length := by
  rw [nth_iff] at h
  have hplace := (List.getElem?_eq_some_iff.mp h.2).1
  omega

theorem rejected_or_accepted (a : Answer) : Rejected a ∨ ∃ name, Accepted a name := by
  cases a with
  | interrupt =>
    rcases exists_nth (k := 1) (by decide) (by decide) with ⟨name, hname⟩
    exact .inr ⟨name, .interrupt hname⟩
  | line s =>
    by_cases hblank : s.toList.all Text.isBlank = true
    . rcases exists_nth (k := 1) (by decide) (by decide) with ⟨name, hname⟩
      exact .inr ⟨name, .blank hblank hname⟩
    . by_cases hnumber : ∃ k, ReadsAs s.toList k
      . rcases hnumber with ⟨k, hk⟩
        by_cases hrange : 1 ≤ k ∧ k ≤ recommendedModels.length
        . rcases exists_nth hrange.1 hrange.2 with ⟨name, hname⟩
          exact .inr ⟨name, .number hk hname⟩
        . apply Or.inl
          apply Rejected.outOfRange hk
          omega
      . apply Or.inl
        apply Rejected.noNumber (Bool.eq_false_iff.mpr hblank)
        simpa using hnumber

/-! ### Choices -/

theorem choose_of_rejected {a : Answer} (h : Rejected a) (rest : List Answer)
    : (choose recommendedModels.names (a :: rest)).chosen = (choose recommendedModels.names rest).chosen ∧
      (choose recommendedModels.names (a :: rest)).left = (choose recommendedModels.names rest).left := by
  cases h with
  | noNumber hblank h =>
    rw [choose, choiceOf_noNumber _ hblank h]
    exact ⟨rfl, rfl⟩
  | @outOfRange s k h hrange =>
    have hout : ¬ (1 ≤ k ∧ k ≤ recommendedModels.names.length) := by
      change ¬ (1 ≤ k ∧ k ≤ recommendedModels.length)
      omega
    rw [choose, choiceOf_number _ h, if_neg hout]
    exact ⟨rfl, rfl⟩

theorem choose_of_accepted {a : Answer} {name : String} (h : Accepted a name) (rest : List Answer)
    : (choose recommendedModels.names (a :: rest)).chosen = some name ∧
      (choose recommendedModels.names (a :: rest)).left = rest.length := by
  cases h with
  | blank h hname =>
    have hfirst := (nth_iff.mp hname).2
    rw [choose, choiceOf_blank (by decide) h]
    dsimp only
    change recommendedModels.names[0]? = some name at hfirst
    rw [hfirst]
    exact ⟨rfl, rfl⟩
  | @number s _ k h hname =>
    have hrange : 1 ≤ k ∧ k ≤ recommendedModels.names.length := ⟨hname.1, hname.le_length⟩
    have hnth := (nth_iff.mp hname).2
    rw [choose, choiceOf_number _ h, if_pos hrange]
    dsimp only
    rw [hnth]
    exact ⟨rfl, rfl⟩
  | interrupt hname =>
    have hfirst := (nth_iff.mp hname).2
    rw [choose, List.head?_eq_getElem?]
    exact ⟨hfirst, rfl⟩

/--
Answers are passed over until one stands for a model.
-/
theorem choose_first (answers : List Answer)
    : (∃ before a after name, answers = before ++ a :: after ∧ (∀ b ∈ before, Rejected b) ∧ Accepted a name ∧
        (choose recommendedModels.names answers).chosen = some name ∧
        (choose recommendedModels.names answers).left = after.length) ∨
      ((∀ a ∈ answers, Rejected a) ∧ (choose recommendedModels.names answers).chosen = none ∧
        (choose recommendedModels.names answers).left = 0) := by
  induction answers with
  | nil => exact .inr ⟨by simp, rfl, rfl⟩
  | cons a answers ih =>
    -- An answer that is passed over leaves the choice to the ones after it.
    rcases rejected_or_accepted a with ha | ⟨name, ha⟩
    . rcases choose_of_rejected ha answers with ⟨hchosen, hleft⟩
      rw [hchosen, hleft]
      rcases ih with ⟨before, b, after, name, rfl, hbefore, hb, hresult⟩ | ⟨hall, hresult⟩
      . refine .inl ⟨a :: before, b, after, name, rfl, ?_, hb, hresult⟩
        rw [List.forall_mem_cons]
        exact ⟨ha, hbefore⟩
      . refine .inr ⟨?_, hresult⟩
        rw [List.forall_mem_cons]
        exact ⟨ha, hall⟩
    . exact .inl ⟨[], a, answers, name, rfl, by simp, ha, choose_of_accepted ha answers⟩

-- Whom an answer stands for is seen from the choice that is made if it is the only one.
theorem Accepted.unique {a : Answer} {name name' : String} (h : Accepted a name) (h' : Accepted a name')
    : name = name' := by
  have hchosen := (choose_of_accepted h []).1
  rw [(choose_of_accepted h' []).1] at hchosen
  cases hchosen
  rfl

theorem Accepted.not_rejected {a : Answer} {name : String} (h : Accepted a name) : ¬ Rejected a := by
  intro hrejected
  have hchosen := (choose_of_accepted h []).1
  rw [(choose_of_rejected hrejected []).1] at hchosen
  cases hchosen

/--
A choice takes the first answer that stands for a model, and each of those stands for one model only. All answers before
it are passed over, and the ones after it are left. Without such an answer there is no choice, and no answer is left.
-/
theorem selectModel_takes_first (answers : List Answer)
    : ((∃ before a after name, answers = before ++ a :: after ∧ (∀ b ∈ before, Rejected b) ∧ Accepted a name ∧
          (selectModel answers).chosen = some name ∧ (selectModel answers).left = after.length) ∨
        ((∀ a ∈ answers, Rejected a) ∧ (selectModel answers).chosen = none ∧ (selectModel answers).left = 0)) ∧
      ∀ a name, Accepted a name → ¬ Rejected a ∧ ∀ other, Accepted a other → other = name :=
  ⟨choose_first answers, fun _ _ h => ⟨h.not_rejected, fun _ hother => hother.unique h⟩⟩

-- No number, numbers on both sides of the range, and then a number with blanks around it.
def waveringAnswers : List Answer :=
  [.line "two", .line "0", .line "-1", .line "7", .line " +02\t", .interrupt]

theorem selectModel_takes_first_wavering
    : ∃ before a after, waveringAnswers = before ++ a :: after ∧ (∀ b ∈ before, Rejected b) ∧
        Accepted a "deepseek-r1" ∧ after.length = 1 := by
  have hresult : (selectModel waveringAnswers).chosen = some "deepseek-r1" ∧
      (selectModel waveringAnswers).left = 1 := by
    decide +kernel
  rcases (selectModel_takes_first waveringAnswers).1 with
    ⟨before, a, after, name, heq, hbefore, ha, hchosen, hleft⟩ | ⟨-, hchosen, -⟩
  . have hname : name = "deepseek-r1" := by
      have hsome := hchosen.symm.trans hresult.1
      simpa using hsome
    rw [hname] at ha
    exact ⟨before, a, after, heq, hbefore, ha, hleft.symm.trans hresult.2⟩
  . have hsome := hchosen.symm.trans hresult.1
    simp at hsome

end CodeAudit.Assist
