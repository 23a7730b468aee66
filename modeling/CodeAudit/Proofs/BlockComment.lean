import CodeAudit.Proofs.LineKind
import Mathlib.Data.List.TakeWhile

/-!
This module contains how the counts of a script divide at a line that is a whole block comment. The scan leaves
the block open there, so the lines after it count as comments up to the next line with a mark, and only from
there on as they do on their own.
-/

namespace CodeAudit.Text.LineCounts

-- Counts are added kind by kind.
instance : Add LineCounts where
  add a b := ⟨a.total + b.total, a.code + b.code, a.comment + b.comment, a.blank + b.blank⟩

theorem add_eq (a b : LineCounts)
    : a + b = ⟨a.total + b.total, a.code + b.code, a.comment + b.comment, a.blank + b.blank⟩ := rfl

theorem add_assoc (a b c : LineCounts) : a + b + c = a + (b + c) := by
  simp only [add_eq, mk.injEq]
  omega

theorem add_left_cancel_iff {a b c : LineCounts} : a + b = a + c ↔ b = c := by
  cases b
  cases c
  simp only [add_eq, mk.injEq]
  omega

theorem add_right_cancel_iff {a b c : LineCounts} : a + c = b + c ↔ a = b := by
  cases a
  cases b
  simp only [add_eq, mk.injEq]
  omega

/--
The counts of lines of the given kinds.
-/
def ofKinds (kinds : List LineKind) : LineCounts where
  total := kinds.length
  code := kinds.count .code
  comment := kinds.count .comment
  blank := kinds.count .blank

theorem ofKinds_append (kinds more : List LineKind) : ofKinds (kinds ++ more) = ofKinds kinds + ofKinds more := by
  simp [ofKinds, add_eq]

/--
The counts of so many comments.
-/
def comments (n : Nat) : LineCounts :=
  ⟨n, 0, n, 0⟩

theorem ofKinds_comments (n : Nat) : ofKinds (List.replicate n .comment) = comments n := by
  simp [ofKinds, comments, List.count_replicate]

theorem ofKinds_eq_comments_iff (kinds : List LineKind)
    : ofKinds kinds = comments kinds.length ↔ ∀ kind ∈ kinds, kind = .comment := by
  have hsum := Script.count_kinds kinds
  have hall : kinds.count .comment = kinds.length ↔ ∀ kind ∈ kinds, kind = .comment := by
    rw [List.count_eq_length]
    simp only [eq_comm]
  rw [← hall]
  simp only [ofKinds, comments, mk.injEq, true_and]
  omega

end CodeAudit.Text.LineCounts

namespace CodeAudit.Script

open Text

theorem countLines_eq (ls : List (List Char)) : countLines ls = .ofKinds (lineKinds false ls) := by
  unfold countLines LineCounts.ofKinds
  rw [length_lineKinds]

/-! ### Lines without a mark -/

/--
The line has no mark of a block comment.
-/
def Unmarked (line : List Char) : Prop :=
  ¬ HasOpening line ∧ ¬ HasClosing line

instance : DecidablePred Unmarked := fun _ => inferInstanceAs (Decidable (_ ∧ _))

theorem unmarked_iff (line : List Char) : Unmarked line ↔ opensBlock line = false ∧ closesBlock line = false := by
  simp [Unmarked, ← opensBlock_iff, ← closesBlock_iff]

theorem lineStep_block_of_unmarked {line : List Char} (h : Unmarked line) (inBlock : Bool)
    : (lineStep inBlock line).2 = inBlock := by
  rw [unmarked_iff] at h
  unfold lineStep
  cases inBlock with
  | true => simp [h]
  | false =>
    simp only [h, Bool.false_eq_true, if_false]
    split
    . rfl
    . split
      . rfl
      . rfl

theorem lineStep_true_of_unmarked {line : List Char} (h : Unmarked line)
    : lineStep true line = (.comment, true) := by
  rw [unmarked_iff] at h
  simp [lineStep, h]

theorem lineStep_of_marked {line : List Char} (h : ¬ Unmarked line) (inBlock : Bool)
    : lineStep inBlock line = lineStep false line := by
  rw [unmarked_iff] at h
  unfold lineStep
  split
  . rfl
  . split
    . rfl
    . next hopens hcloses => simp_all

/--
Outside of block comments a line without a mark is a comment exactly if it starts with two slashes.
-/
theorem lineStep_comment_iff {line : List Char} (h : Unmarked line)
    : (lineStep false line).1 = .comment ↔ ['/', '/'] <+: strip line := by
  have hclosed : false = true ↔ BlockOpen [] := by decide
  have hcounts := (lineStep_spec hclosed line).1
  have hcomment : IsComment [] line ↔ ['/', '/'] <+: strip line := by
    simp [IsComment, h.1, h.2, ← hclosed]
  rw [← hcomment]
  constructor
  . intro hkind
    rw [hkind] at hcounts
    exact hcounts
  . intro hline
    apply hcounts.unique
    exact hline

theorem lineKinds_append {front : List (List Char)} (h : ∀ line ∈ front, Unmarked line) (inBlock : Bool)
    (back : List (List Char))
    : lineKinds inBlock (front ++ back) = lineKinds inBlock front ++ lineKinds inBlock back := by
  induction front with
  | nil => rfl
  | cons line rest ih =>
    rw [List.forall_mem_cons] at h
    simp [lineKinds, lineStep_block_of_unmarked h.1, ih h.2]

theorem lineKinds_true {ls : List (List Char)} (h : ∀ line ∈ ls, Unmarked line)
    : lineKinds true ls = List.replicate ls.length .comment := by
  induction ls with
  | nil => rfl
  | cons line rest ih =>
    rw [List.forall_mem_cons] at h
    simp [lineKinds, lineStep_true_of_unmarked h.1, ih h.2, List.replicate_succ]

theorem forall_lineKinds_comment_iff {ls : List (List Char)} (h : ∀ line ∈ ls, Unmarked line)
    : (∀ kind ∈ lineKinds false ls, kind = .comment) ↔ ∀ line ∈ ls, ['/', '/'] <+: strip line := by
  induction ls with
  | nil => simp [lineKinds]
  | cons line rest ih =>
    rw [List.forall_mem_cons] at h
    simp [lineKinds, lineStep_block_of_unmarked h.1, lineStep_comment_iff h.1, ih h.2]

/-! ### Lines up to a mark -/

/--
The lines before the first one with a mark.
-/
def untilMark (ls : List (List Char)) : List (List Char) :=
  ls.takeWhile fun line => Unmarked line

/--
The lines from the first one with a mark on.
-/
def fromMark (ls : List (List Char)) : List (List Char) :=
  ls.dropWhile fun line => Unmarked line

theorem untilMark_append_fromMark (ls : List (List Char)) : untilMark ls ++ fromMark ls = ls :=
  List.takeWhile_append_dropWhile

theorem unmarked_of_mem_untilMark {ls : List (List Char)} : ∀ line ∈ untilMark ls, Unmarked line := by
  intro line hline
  have hunmarked := List.mem_takeWhile_imp hline
  exact of_decide_eq_true hunmarked

-- The first of these lines sets the state anew, so that it does not matter which one it was.
theorem lineKinds_fromMark (inBlock : Bool) (ls : List (List Char))
    : lineKinds inBlock (fromMark ls) = lineKinds false (fromMark ls) := by
  unfold fromMark
  induction ls with
  | nil => rfl
  | cons line rest ih =>
    rw [List.dropWhile_cons]
    split
    . exact ih
    . next hmarked =>
      simp only [decide_eq_true_eq] at hmarked
      simp [lineKinds, lineStep_of_marked hmarked inBlock]

theorem countLines_eq_until_from (ls : List (List Char))
    : countLines ls = countLines (untilMark ls) + countLines (fromMark ls) := by
  simp only [countLines_eq]
  rw [← LineCounts.ofKinds_append, ← lineKinds_append unmarked_of_mem_untilMark, untilMark_append_fromMark]

theorem ofKinds_lineKinds_true (ls : List (List Char))
    : .ofKinds (lineKinds true ls) = LineCounts.comments (untilMark ls).length + countLines (fromMark ls) := by
  rw [countLines_eq, ← LineCounts.ofKinds_comments, ← LineCounts.ofKinds_append]
  rw [← lineKinds_true unmarked_of_mem_untilMark, ← lineKinds_fromMark true]
  rw [← lineKinds_append unmarked_of_mem_untilMark, untilMark_append_fromMark]

/-! ### A block comment on a line of its own -/

/--
The line is a whole block comment: with nothing but blanks around it and no further mark in it.
-/
def IsBlock (line : List Char) : Prop :=
  ∃ text, strip line = ['/', '*'] ++ text ++ ['*', '/'] ∧ Unmarked text

theorem IsBlock.hasOpening {line : List Char} (h : IsBlock line) : HasOpening line := by
  rcases h with ⟨text, hline, _⟩
  unfold HasOpening
  rw [← infix_strip_iff rfl, hline, List.append_assoc]
  apply List.IsPrefix.isInfix
  apply List.prefix_append

theorem IsBlock.lineStep_eq {line : List Char} (h : IsBlock line) (inBlock : Bool)
    : lineStep inBlock line = (.comment, true) := by
  have hopens := (opensBlock_iff line).mpr h.hasOpening
  simp [lineStep, hopens]

/--
The counts of a script around the first line with a mark, if that is a whole block comment. The lines after it count
as comments up to the next line with a mark. So the counts of the parts add up to those of the script exactly
if these lines are comments anyway.
-/
theorem countLines_around_block {before : List (List Char)} {line : List Char}
    (hbefore : ∀ l ∈ before, Unmarked l) (hline : IsBlock line) (after : List (List Char))
    : countLines [line] = .comments 1 ∧
      countLines (before ++ [line] ++ after) =
        countLines before + countLines [line] +
          (.comments (untilMark after).length + countLines (fromMark after)) ∧
      countLines after = countLines (untilMark after) + countLines (fromMark after) ∧
      (countLines (before ++ [line] ++ after) = countLines before + countLines [line] + countLines after ↔
        ∀ l ∈ untilMark after, ['/', '/'] <+: strip l) := by
  have hone : countLines [line] = .comments 1 := by
    rw [countLines_eq, lineKinds, hline.lineStep_eq]
    rfl
  have hwhole : countLines (before ++ [line] ++ after) =
      countLines before + countLines [line] +
        (.comments (untilMark after).length + countLines (fromMark after)) := by
    have hscan : lineKinds false ([line] ++ after) = [.comment] ++ lineKinds true after := by
      simp [lineKinds, hline.lineStep_eq]
    rw [hone, List.append_assoc, countLines_eq, lineKinds_append hbefore, hscan]
    rw [LineCounts.ofKinds_append, LineCounts.ofKinds_append, ofKinds_lineKinds_true, ← countLines_eq]
    rw [LineCounts.add_assoc]
    rfl
  refine ⟨hone, hwhole, countLines_eq_until_from after, ?_⟩
  rw [hwhole, countLines_eq_until_from after, LineCounts.add_left_cancel_iff, LineCounts.add_right_cancel_iff]
  rw [← forall_lineKinds_comment_iff unmarked_of_mem_untilMark, ← LineCounts.ofKinds_eq_comments_iff]
  rw [countLines_eq, length_lineKinds, eq_comm]

-- Code and an empty line before the comment, and after it a line comment before a block of two lines.
def prefaceLines : List (List Char) := ["let a;".toList, []]

def prefaceComment : List Char := "  /* a */ ".toList

def prefaceRest : List (List Char) :=
  ["// b".toList, "f(a); /* c".toList, "d */".toList, "g(a);".toList]

theorem countLines_around_block_preface
    : (∀ l ∈ prefaceLines, Unmarked l) ∧ IsBlock prefaceComment ∧
      (∀ l ∈ untilMark prefaceRest, ['/', '/'] <+: strip l) ∧
      countLines (prefaceLines ++ [prefaceComment] ++ prefaceRest) =
        countLines prefaceLines + countLines [prefaceComment] + countLines prefaceRest ∧
      countLines (prefaceLines ++ [prefaceComment] ++ prefaceRest) = ⟨7, 2, 4, 1⟩ := by
  have hbefore : ∀ l ∈ prefaceLines, Unmarked l := by decide
  have hline : IsBlock prefaceComment := ⟨" a ".toList, by decide⟩
  have hslashes : ∀ l ∈ untilMark prefaceRest, ['/', '/'] <+: strip l := by decide
  have hadds := (countLines_around_block hbefore hline prefaceRest).2.2.2.mpr hslashes
  refine ⟨hbefore, hline, hslashes, hadds, ?_⟩
  rw [hadds]
  decide

-- A comment with a line of code under it.
def captionedCode : List Char := "/* a */\nx = 1;".toList

/--
The line of code under the comment counts as a comment, though it is code on its own.
-/
theorem lineCounts_captionedCode_misses
    : lines captionedCode = [] ++ ["/* a */".toList] ++ ["x = 1;".toList] ∧ IsBlock "/* a */".toList ∧
      lineCounts captionedCode = ⟨2, 0, 2, 0⟩ ∧
      countLines [] + countLines ["/* a */".toList] + countLines ["x = 1;".toList] = ⟨2, 1, 1, 0⟩ := by
  refine ⟨by decide, ⟨" a ".toList, by decide⟩, by decide, by decide⟩

end CodeAudit.Script
