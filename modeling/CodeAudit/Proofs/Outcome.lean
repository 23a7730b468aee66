import CodeAudit.Proofs.LineStyle
import Mathlib.Data.List.TakeDrop
import Mathlib.Logic.Basic

/-!
This module contains what the outline of a source text can be: whole, with counts that divide the lines of the text
into blank ones, comments and code, or void, with one problem and nothing else. There is nothing between the two,
whether the text is given by its code points or stands in a file.
-/

namespace CodeAudit

open Text

/--
An outline without problems, whose counts are those of the lines of the text.
-/
structure Outline.Whole (o : Outline) (code : List Char) : Prop where
  problems : o.problems = []
  total : o.lines.total = code.count '\n' + 1
  blank : o.lines.blank = (Text.lines code).countP fun line => strip line = []
  comment : o.lines.comment = (Text.lines code).countP fun line => (strip line).head? = some '#'
  code : o.lines.code = (Text.lines code).countP fun line => strip line ≠ [] ∧ (strip line).head? ≠ some '#'
  nonneg : 0 ≤ o.lines.total ∧ 0 ≤ o.lines.code ∧ 0 ≤ o.lines.comment ∧ 0 ≤ o.lines.blank
  sum : o.lines.code + o.lines.comment + o.lines.blank = o.lines.total

/--
An outline with one problem and nothing else.
-/
structure Outline.Void (o : Outline) : Prop where
  problems : ∃ problem, o.problems = [problem]
  entries : o.entries = []
  imports : o.imports = []
  lines : o.lines = ⟨0, 0, 0, 0⟩

/--
Of the texts that an outline may be of, it is whole about one, or it is void, and not both. It is whole exactly if one
of the texts is a module.
-/
structure Outline.AllOrNothing (o : Outline) (source : List Char → Prop) : Prop where
  either : Xor (∃ code, source code ∧ o.Whole code) o.Void
  whole_iff : (∃ code, source code ∧ o.Whole code) ↔ ∃ code, source code ∧ (Syntax.parse? code).isSome = true

namespace Outline

theorem Void.not_whole {o : Outline} (h : o.Void) (code : List Char) : ¬ o.Whole code := by
  intro hwhole
  rcases h.problems with ⟨problem, hproblem⟩
  rw [hwhole.problems] at hproblem
  cases hproblem

theorem failed_void (path language problem : String) : (failed path language problem).Void := by
  apply Void.mk
  . exact ⟨problem, rfl⟩
  all_goals rfl

variable {o : Outline} {source : List Char → Prop} {code : List Char}

theorem allOrNothing_of_whole (hsource : source code) (hmodule : (Syntax.parse? code).isSome = true)
    (hwhole : o.Whole code) : o.AllOrNothing source := by
  constructor
  . left
    refine ⟨⟨code, hsource, hwhole⟩, ?_⟩
    intro hvoid
    exact hvoid.not_whole code hwhole
  . apply iff_of_true
    . exact ⟨code, hsource, hwhole⟩
    . exact ⟨code, hsource, hmodule⟩

theorem allOrNothing_of_void (hvoid : o.Void) (hnone : ∀ code, source code → Syntax.parse? code = none)
    : o.AllOrNothing source := by
  have hnot : ¬ ∃ code, source code ∧ o.Whole code := by
    rintro ⟨code, _, hwhole⟩
    exact hvoid.not_whole code hwhole
  constructor
  . right
    exact ⟨hvoid, hnot⟩
  . apply iff_of_false hnot
    rintro ⟨code, hsource, hmodule⟩
    rw [hnone code hsource] at hmodule
    cases hmodule

end Outline

/-! ### Lines -/

/--
Two kinds that exclude each other and what is of neither make up a list.
-/
theorem countP_disjoint {α : Type} {p q : α → Prop} [DecidablePred p] [DecidablePred q]
    (h : ∀ a, p a → ¬ q a) (as : List α)
    : as.countP (fun a => p a) + as.countP (fun a => q a) + as.countP (fun a => ¬ p a ∧ ¬ q a) = as.length := by
  induction as with
  | nil => rfl
  | cons a rest ih =>
    simp only [List.countP_cons, List.length_cons, decide_eq_true_eq]
    by_cases hp : p a
    . rw [if_pos hp, if_neg (h a hp), if_neg (by simp [hp])]
      omega
    . by_cases hq : q a
      . rw [if_neg hp, if_pos hq, if_neg (by simp [hq])]
        omega
      . rw [if_neg hp, if_neg hq, if_pos ⟨hp, hq⟩]
        omega

namespace Syntax

theorem lineCounts_blank (code : List Char)
    : (lineCounts code).blank = (lines code).countP fun line => strip line = [] := by
  unfold lineCounts
  dsimp only
  rw [List.countP_eq_length_filter]
  congr 2
  apply List.filter_congr
  intro line _
  rw [Bool.eq_iff_iff, isBlankLine]
  simp

theorem lineCounts_comment (code : List Char)
    : (lineCounts code).comment = (lines code).countP fun line => (strip line).head? = some '#' := by
  unfold lineCounts
  dsimp only
  rw [List.countP_eq_length_filter]
  congr 2
  apply List.filter_congr
  intro line _
  rw [Bool.eq_iff_iff, beq_iff_eq, decide_eq_true_iff]

/--
The lines of code are counted by what the others leave, and no line is blank and a comment.
-/
theorem lineCounts_code (code : List Char)
    : (lineCounts code).code = (lines code).countP fun line => strip line ≠ [] ∧ (strip line).head? ≠ some '#' := by
  have hdisjoint : ∀ line : List Char, strip line = [] → (strip line).head? ≠ some '#' := by
    intro line hblank
    simp [hblank]
  have hsum := countP_disjoint hdisjoint (lines code)
  change ((lines code).length : Int) - (lineCounts code).blank - (lineCounts code).comment = _
  rw [lineCounts_blank, lineCounts_comment]
  simp only [ne_eq]
  omega

variable (addresses : Addresses)

theorem outline_whole {code : List Char} (h : (parse? code).isSome = true) (path : String)
    : (outline addresses code path).Whole code := by
  rcases Option.isSome_iff_exists.mp h with ⟨body, hbody⟩
  have hlines : (outline addresses code path).lines = lineCounts code := by
    unfold outline
    rw [hbody]
  have htotal : (lineCounts code).total = (lines code).length := rfl
  have hrest : (lineCounts code).code =
      (lineCounts code).total - (lineCounts code).blank - (lineCounts code).comment := rfl
  apply Outline.Whole.mk
  . unfold outline
    rw [hbody]
  . rw [hlines, htotal, length_lines]
    rfl
  . rw [hlines, lineCounts_blank]
  . rw [hlines, lineCounts_comment]
  . rw [hlines, lineCounts_code]
  . rw [hlines, lineCounts_code, lineCounts_comment, lineCounts_blank, htotal]
    omega
  . rw [hlines, hrest]
    omega

theorem outline_void {code : List Char} (h : parse? code = none) (path : String)
    : (outline addresses code path).Void := by
  unfold outline
  rw [h]
  apply Outline.failed_void

theorem outline_allOrNothing {source : List Char → Prop} {code : List Char}
    (hsource : ∀ text, source text ↔ text = code) (path : String)
    : (outline addresses code path).AllOrNothing source := by
  cases hmodule : parse? code with
  | some body =>
    have hsome : (parse? code).isSome = true := by simp [hmodule]
    apply Outline.allOrNothing_of_whole ((hsource code).mpr rfl) hsome
    apply outline_whole addresses hsome
  | none =>
    apply Outline.allOrNothing_of_void (outline_void addresses hmodule path)
    intro text htext
    rw [(hsource text).mp htext]
    exact hmodule

/-! ### Code points -/

theorem parse?_of_null {code : List Char} (h : '\x00' ∈ code) : parse? code = none := by
  unfold parse? tokens?
  rw [if_pos (by simpa using h)]
  rfl

theorem ofCodePoints_eq_ok_iff {ns : List Nat} {code : List Char}
    : ofCodePoints ns = .ok code ↔ (∀ n ∈ ns, isSurrogate n = false) ∧ code = ns.map Char.ofNat := by
  unfold ofCodePoints
  rw [List.span_eq_takeWhile_dropWhile]
  by_cases hall : ∀ n ∈ ns, isSurrogate n = false
  . have hdrop : ns.dropWhile (!isSurrogate ·) = [] := by
      rw [List.dropWhile_eq_nil_iff]
      simpa using hall
    have htake : ns.takeWhile (!isSurrogate ·) = ns := by
      rw [List.takeWhile_eq_self_iff]
      simpa using hall
    rw [hdrop, htake]
    simp only [Except.ok.injEq]
    rw [eq_comm]
    exact (and_iff_right hall).symm
  . have hdrop : ns.dropWhile (!isSurrogate ·) ≠ [] := by
      rw [ne_eq, List.dropWhile_eq_nil_iff]
      simpa using hall
    split
    . next heq => exact absurd (congrArg Prod.snd heq) hdrop
    . simp [hall]

theorem ofCodePoints_toNat (code : List Char) : ofCodePoints (code.map Char.toNat) = .ok code := by
  rw [ofCodePoints_eq_ok_iff]
  constructor
  . intro n hn
    rcases List.mem_map.mp hn with ⟨c, _, rfl⟩
    have hvalid := toNat_valid c
    simp [isSurrogate]
    omega
  . simp [Function.comp_def]

-- What is no character is read as the null character, which no module has.
theorem parse?_of_not_toNat {ns : List Nat} (h : (ns.map Char.ofNat).map Char.toNat ≠ ns)
    : parse? (ns.map Char.ofNat) = none := by
  apply parse?_of_null
  by_contra hnull
  apply h
  rw [List.map_map]
  apply (List.map_congr_left _).trans (List.map_id ns)
  intro n hn
  by_cases hvalid : n.isValidChar
  . exact toNat_ofNat_of_valid hvalid
  . have hchar : Char.ofNat n = '\x00' := by
      unfold Char.ofNat
      rw [dif_neg hvalid]
      rfl
    rw [← hchar] at hnull
    exact absurd (List.mem_map_of_mem hn) hnull

theorem outlineOfCodePoints_allOrNothing (ns : List Nat) (path : String)
    : (outlineOfCodePoints addresses ns path).AllOrNothing fun code => ns = code.map Char.toNat := by
  unfold outlineOfCodePoints
  cases hread : ofCodePoints ns with
  | error e =>
    apply Outline.allOrNothing_of_void (Outline.failed_void _ _ _)
    rintro code rfl
    rw [ofCodePoints_toNat] at hread
    cases hread
  | ok code =>
    have htext : ∀ text : List Char, ns = text.map Char.toNat → text = code := by
      rintro text rfl
      rw [ofCodePoints_toNat] at hread
      exact Except.ok.inj hread
    rcases ofCodePoints_eq_ok_iff.mp hread with ⟨_, rfl⟩
    by_cases hback : (ns.map Char.ofNat).map Char.toNat = ns
    . apply outline_allOrNothing
      intro text
      constructor
      . apply htext
      . rintro rfl
        exact hback.symm
    . have hnone := parse?_of_not_toNat hback
      apply Outline.allOrNothing_of_void (outline_void addresses hnone path)
      intro text hsource
      rw [htext text hsource]
      exact hnone

/-! ### Files -/

theorem readText_eq_ok_iff {files : Files.Store} {path : String} {code : List Char}
    : files.readText path = .ok code ↔
        ∃ cs, files.readBytes path = .ok (encode cs) ∧ code = unifyLineEnds cs := by
  constructor
  . intro h
    unfold Files.Store.readText at h
    rcases bind_eq_ok_iff.mp h with ⟨bytes, hbytes, h⟩
    split at h
    . next cs hcs =>
      cases h
      rw [decode_eq_ok_iff] at hcs
      exact ⟨cs, hcs ▸ hbytes, rfl⟩
    . cases h
  . rintro ⟨cs, hcs, rfl⟩
    apply readText_of_encoded hcs

theorem outlineOfFile_allOrNothing (files : Files.Store) (path : String)
    : (outlineOfFile addresses files path).AllOrNothing fun code =>
        ∃ cs, files.readBytes path = .ok (encode cs) ∧ code = unifyLineEnds cs := by
  simp only [← readText_eq_ok_iff]
  unfold outlineOfFile
  cases hread : files.readText path with
  | error e =>
    apply Outline.allOrNothing_of_void (Outline.failed_void _ _ _)
    intro code hcode
    cases hcode
  | ok code =>
    apply outline_allOrNothing
    intro text
    rw [Except.ok.injEq, eq_comm]

/--
The outline of a text is whole or void, and not both: it is whole if the text is a module, and then the counts divide
the lines of the text. So is the outline of code points, which are those of a text if it is whole, and the outline of a
file, whose bytes are then those of a text in UTF-8 and whose lines are counted with all line ends made alike.
-/
theorem outline_all_or_nothing (addresses : Addresses)
    : (∀ code path, (outline addresses code path).AllOrNothing (· = code)) ∧
      (∀ ns path, (outlineOfCodePoints addresses ns path).AllOrNothing fun code => ns = code.map Char.toNat) ∧
      ∀ (files : Files.Store) path, (outlineOfFile addresses files path).AllOrNothing fun code =>
        ∃ cs, files.readBytes path = .ok (encode cs) ∧ code = unifyLineEnds cs := by
  refine ⟨?_, outlineOfCodePoints_allOrNothing addresses, outlineOfFile_allOrNothing addresses⟩
  intro code path
  apply outline_allOrNothing
  intro text
  rfl

end Syntax

end CodeAudit
