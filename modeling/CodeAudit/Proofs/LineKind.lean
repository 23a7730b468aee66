import CodeAudit.Proofs.LineEnds
import CodeAudit.Script.LineCount
import Mathlib.Data.Fintype.Fin
import Mathlib.Data.List.Infix

/-!
This module contains how the lines of a script are counted, told for each line from the lines before it: a block
comment is open there exactly if the last line with a mark of one has a mark that opens it. So each line is
counted once, and the counts are the numbers of lines of each kind.
-/

namespace CodeAudit.Script

open Text

/-! ### Marks -/

theorem occursIn_iff {mark : List Char} {cs : List Char} : occursIn mark cs = true ↔ mark <:+: cs := by
  induction cs with
  | nil => simp [occursIn]
  | cons c rest ih => simp [occursIn, ih, List.infix_cons_iff]

theorem infix_dropWhile_iff {mark cs : List Char} (hmark : ∀ c ∈ mark, isBlank c = false)
    : mark <:+: cs.dropWhile isBlank ↔ mark <:+: cs := by
  induction cs with
  | nil => rfl
  | cons c rest ih =>
    rw [List.dropWhile_cons]
    split
    . next hblank =>
      rw [ih, List.infix_cons_iff]
      constructor
      . exact Or.inr
      . rintro (hstarts | hrest)
        . cases mark with
          | nil => exact List.nil_infix
          | cons d mark =>
            rw [List.cons_prefix_cons] at hstarts
            have := hmark d List.mem_cons_self
            rw [hstarts.1, hblank] at this
            cases this
        . exact hrest
    . rfl

/--
A mark without blanks stands in a text exactly if it stands there without the blanks at the ends.
-/
theorem infix_strip_iff {mark cs : List Char} (hmark : mark.all (!isBlank ·) = true)
    : mark <:+: strip cs ↔ mark <:+: cs := by
  have hchars : ∀ c ∈ mark, isBlank c = false := by simpa using hmark
  have hreverse : ∀ c ∈ mark.reverse, isBlank c = false := by simpa using hmark
  unfold strip stripEnd stripStart
  rw [← List.reverse_infix, List.reverse_reverse, infix_dropWhile_iff hreverse, List.reverse_infix]
  exact infix_dropWhile_iff hchars

/--
The line has the mark that opens a block comment.
-/
def HasOpening (line : List Char) : Prop :=
  ['/', '*'] <:+: line

/--
The line has the mark that closes a block comment.
-/
def HasClosing (line : List Char) : Prop :=
  ['*', '/'] <:+: line

instance : DecidablePred HasOpening := fun _ => inferInstanceAs (Decidable (_ <:+: _))

instance : DecidablePred HasClosing := fun _ => inferInstanceAs (Decidable (_ <:+: _))

theorem opensBlock_iff (line : List Char) : opensBlock line = true ↔ HasOpening line := by
  unfold opensBlock
  rw [occursIn_iff]
  exact infix_strip_iff rfl

theorem closesBlock_iff (line : List Char) : closesBlock line = true ↔ HasClosing line := by
  unfold closesBlock
  rw [occursIn_iff]
  exact infix_strip_iff rfl

/-! ### The kind of a line -/

/--
The last of some lines that has a mark of a block comment.
-/
def lastMarked? (before : List (List Char)) : Option (List Char) :=
  before.reverse.find? fun line => decide (HasOpening line ∨ HasClosing line)

/--
After some lines a block comment is open: the last line with a mark has one that opens it.
-/
def BlockOpen (before : List (List Char)) : Prop :=
  ∃ line ∈ lastMarked? before, HasOpening line

instance : DecidablePred BlockOpen := fun before =>
  match h : lastMarked? before with
  | none => .isFalse (by simp [BlockOpen, h])
  | some line => decidable_of_iff (HasOpening line) (by simp [BlockOpen, h])

theorem blockOpen_concat (before : List (List Char)) (line : List Char)
    : BlockOpen (before ++ [line]) ↔ HasOpening line ∨ (¬ HasClosing line ∧ BlockOpen before) := by
  unfold BlockOpen lastMarked?
  rw [List.reverse_append, List.reverse_singleton, List.singleton_append, List.find?_cons]
  by_cases hopening : HasOpening line
  . simp [hopening]
  . by_cases hclosing : HasClosing line
    . simp [hopening, hclosing]
    . simp [hopening, hclosing]

/--
A line after some others is a comment: it has a mark, a block comment is open, or it starts with two slashes.
-/
def IsComment (before : List (List Char)) (line : List Char) : Prop :=
  HasOpening line ∨ HasClosing line ∨ BlockOpen before ∨ ['/', '/'] <+: strip line

/--
A line after some others counts as one of the given kind.
-/
def CountsAs (before : List (List Char)) (line : List Char) : LineKind → Prop
  | .comment => IsComment before line
  | .blank => ¬ IsComment before line ∧ strip line = []
  | .code => ¬ IsComment before line ∧ strip line ≠ []

instance (before : List (List Char)) (line : List Char) : Decidable (IsComment before line) :=
  inferInstanceAs (Decidable (_ ∨ _ ∨ _ ∨ _))

instance (before : List (List Char)) (line : List Char) : DecidablePred (CountsAs before line)
  | .comment => inferInstanceAs (Decidable (IsComment _ _))
  | .blank => inferInstanceAs (Decidable (¬ IsComment _ _ ∧ _ = _))
  | .code => inferInstanceAs (Decidable (¬ IsComment _ _ ∧ ¬ _ = _))

theorem CountsAs.unique {before : List (List Char)} {line : List Char} {kind kind' : LineKind}
    (h : CountsAs before line kind) (h' : CountsAs before line kind') : kind = kind' := by
  cases kind <;> cases kind' <;> simp_all [CountsAs]

/-! ### The scan -/

/--
One step of the scan: if the state says whether a block comment is open after the lines before, then it does so
after the next line, and the line is counted as what it is there.
-/
theorem lineStep_spec {before : List (List Char)} {inBlock : Bool} (h : inBlock = true ↔ BlockOpen before)
    (line : List Char)
    : CountsAs before line (lineStep inBlock line).1 ∧
      ((lineStep inBlock line).2 = true ↔ BlockOpen (before ++ [line])) := by
  rw [blockOpen_concat]
  unfold lineStep
  split
  . next hopens =>
    rw [opensBlock_iff] at hopens
    exact ⟨Or.inl hopens, by simp [hopens]⟩
  . next hopens =>
    rw [opensBlock_iff] at hopens
    split
    . next hcloses =>
      rw [closesBlock_iff] at hcloses
      exact ⟨Or.inr (Or.inl hcloses), by simp [hopens, hcloses]⟩
    . next hcloses =>
      rw [closesBlock_iff] at hcloses
      split
      . next hin =>
        rw [h] at hin
        exact ⟨Or.inr (Or.inr (Or.inl hin)), by simp [hcloses, hin]⟩
      . next hin =>
        rw [h] at hin
        have hnot : IsComment before line ↔ ['/', '/'] <+: strip line := by
          simp [IsComment, hopens, hcloses, hin]
        split
        . next hblank =>
          rw [isBlankLine, List.isEmpty_iff] at hblank
          refine ⟨⟨?_, hblank⟩, by simp [hopens, hin]⟩
          rw [hnot, hblank]
          simp
        . next hblank =>
          rw [isBlankLine, List.isEmpty_iff] at hblank
          split
          . next hslashes =>
            rw [isLineComment, List.isPrefixOf_iff_prefix] at hslashes
            exact ⟨hnot.mpr hslashes, by simp [hopens, hin]⟩
          . next hslashes =>
            rw [isLineComment, List.isPrefixOf_iff_prefix] at hslashes
            exact ⟨⟨mt hnot.mp hslashes, hblank⟩, by simp [hopens, hin]⟩

theorem length_lineKinds (inBlock : Bool) (ls : List (List Char))
    : (lineKinds inBlock ls).length = ls.length := by
  induction ls generalizing inBlock with
  | nil => rfl
  | cons line rest ih => simp [lineKinds, ih]

/--
The whole scan, from a state that says whether a block comment is open after the lines before.
-/
theorem lineKinds_spec {before : List (List Char)} {inBlock : Bool} (h : inBlock = true ↔ BlockOpen before)
    (ls : List (List Char)) (i : Fin ls.length)
    : ∃ kind, (lineKinds inBlock ls)[i.val]? = some kind ∧ CountsAs (before ++ ls.take i) ls[i] kind := by
  induction ls generalizing before inBlock with
  | nil => exact i.elim0
  | cons line rest ih =>
    have hstep := lineStep_spec h line
    cases i using Fin.cases with
    | zero =>
      refine ⟨(lineStep inBlock line).1, rfl, ?_⟩
      simpa using hstep.1
    | succ i =>
      rcases ih hstep.2 i with ⟨kind, hkind, hcounts⟩
      refine ⟨kind, hkind, ?_⟩
      simpa using hcounts

/--
How many lines are of a kind.
-/
def countOf (counts : LineCounts) : LineKind → Int
  | .code => counts.code
  | .comment => counts.comment
  | .blank => counts.blank

theorem getElem?_lineKinds (ls : List (List Char)) (i : Fin ls.length) (kind : LineKind)
    : (lineKinds false ls)[i.val]? = some kind ↔ CountsAs (ls.take i) ls[i] kind := by
  have hclosed : false = true ↔ BlockOpen [] := by decide
  rcases lineKinds_spec hclosed ls i with ⟨kind', hkind', hcounts⟩
  rw [List.nil_append] at hcounts
  rw [hkind', Option.some.injEq]
  constructor
  . rintro rfl
    exact hcounts
  . exact hcounts.unique

theorem count_lineKinds (ls : List (List Char)) (kind : LineKind)
    : (lineKinds false ls).count kind =
        (Finset.univ.filter fun i : Fin ls.length => CountsAs (ls.take i) ls[i] kind).card := by
  have hlength := length_lineKinds false ls
  apply (Fin.card_filter_univ_eq_vector_get_eq_count kind ⟨lineKinds false ls, hlength⟩).symm.trans
  congr 1
  apply Finset.filter_congr
  intro i _
  rw [← getElem?_lineKinds, List.getElem?_eq_getElem (by omega), Option.some.injEq]
  rfl

theorem count_kinds (kinds : List LineKind)
    : kinds.count .code + kinds.count .comment + kinds.count .blank = kinds.length := by
  induction kinds with
  | nil => rfl
  | cons kind kinds ih =>
    cases kind
    all_goals
      simp only [List.count_cons, List.length_cons]
      simp
      omega

/--
Each line of a script counts as exactly one kind, which the line and the lines before it decide: the scan counts
it so, and the counts are the numbers of lines of each kind. They add up to the number of lines, which is one more
than the number of line feeds.
-/
theorem lineCounts_by_kind (code : List Char)
    : (∀ i : Fin (lines code).length,
        (∃! kind, CountsAs ((lines code).take i) (lines code)[i] kind) ∧
        ∀ kind, (lineKinds false (lines code))[i.val]? = some kind ↔
          CountsAs ((lines code).take i) (lines code)[i] kind) ∧
      (∀ kind, countOf (lineCounts code) kind =
        (Finset.univ.filter fun i : Fin (lines code).length =>
          CountsAs ((lines code).take i) (lines code)[i] kind).card) ∧
      (lineCounts code).code + (lineCounts code).comment + (lineCounts code).blank = (lineCounts code).total ∧
      (lineCounts code).total = code.count '\n' + 1 := by
  refine ⟨?_, ?_, ?_, ?_⟩
  . intro i
    refine ⟨?_, getElem?_lineKinds (lines code) i⟩
    have hlength : i.val < (lineKinds false (lines code)).length := by
      rw [length_lineKinds]
      exact i.isLt
    have hkind := (getElem?_lineKinds (lines code) i _).mp (List.getElem?_eq_getElem hlength)
    exact ⟨_, hkind, fun kind h => h.unique hkind⟩
  . intro kind
    rw [← count_lineKinds]
    cases kind <;> rfl
  . have hsum := count_kinds (lineKinds false (lines code))
    rw [length_lineKinds] at hsum
    unfold lineCounts countLines
    dsimp only
    exact_mod_cast hsum
  . exact congrArg Nat.cast (length_lines code)

end CodeAudit.Script
