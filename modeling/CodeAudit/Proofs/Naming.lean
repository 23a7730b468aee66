import CodeAudit.Lint.Naming
import Mathlib.Data.List.Basic

/-!
This module contains the names that are of a style and the names that the language gives, told as sets of
texts: which characters may stand where. A line feed at the end of a name does not count.
-/

namespace CodeAudit.Lint

namespace Style

/--
The characters with which a name of the style starts.
-/
def First : Style → Char → Prop
  | .snakeCase, c => ('a' ≤ c ∧ c ≤ 'z') ∨ c = '_'
  | .camelCase, c => 'a' ≤ c ∧ c ≤ 'z'
  | .pascalCase, c => 'A' ≤ c ∧ c ≤ 'Z'

/--
The characters that follow in a name of the style.
-/
def Next : Style → Char → Prop
  | .snakeCase, c => ('a' ≤ c ∧ c ≤ 'z') ∨ ('0' ≤ c ∧ c ≤ '9') ∨ c = '_'
  | _, c => ('A' ≤ c ∧ c ≤ 'Z') ∨ ('a' ≤ c ∧ c ≤ 'z') ∨ ('0' ≤ c ∧ c ≤ '9')

/--
A name of the style.
-/
def Fits (s : Style) (name : String) : Prop :=
  ∃ c cs, s.First c ∧ (∀ d ∈ cs, s.Next d) ∧
    (name.toList = c :: cs ∨ name.toList = c :: cs ++ ['\n'])

end Style

/--
A name that the language gives: two underscores at the start, two others at the end, and no line feed
between them.
-/
def Reserved (name : String) : Prop :=
  ∃ inner, '\n' ∉ inner ∧
    (name.toList = ['_', '_'] ++ inner ++ ['_', '_'] ∨
      name.toList = ['_', '_'] ++ inner ++ ['_', '_'] ++ ['\n'])

theorem withoutLineEnd_eq_iff {name cs : List Char} (hcs : cs.getLast? ≠ some '\n')
    : withoutLineEnd name = cs ↔ name = cs ∨ name = cs ++ ['\n'] := by
  unfold withoutLineEnd
  split
  . next hlast =>
    rw [beq_iff_eq] at hlast
    have hname : name = name.dropLast ++ ['\n'] := (List.dropLast_append_getLast? _ hlast).symm
    constructor
    . intro h
      rw [h] at hname
      exact Or.inr hname
    . rintro (h | h)
      . rw [h] at hlast
        exact absurd hlast hcs
      . rw [h]
        exact List.dropLast_concat
  . next hlast =>
    constructor
    . exact Or.inl
    . rintro (h | h)
      . exact h
      . rw [h] at hlast
        simp at hlast

/-! ### Styles -/

namespace Style

theorem isLower_iff (c : Char) : c.isLower = true ↔ 'a' ≤ c ∧ c ≤ 'z' := by
  change (decide ('a' ≤ c) && decide (c ≤ 'z')) = true ↔ _
  simp

theorem isUpper_iff (c : Char) : c.isUpper = true ↔ 'A' ≤ c ∧ c ≤ 'Z' := by
  change decide ('A' ≤ c ∧ c ≤ 'Z') = true ↔ _
  exact decide_eq_true_iff

theorem isDigit_iff (c : Char) : c.isDigit = true ↔ '0' ≤ c ∧ c ≤ '9' := by
  change (decide ('0' ≤ c) && decide (c ≤ '9')) = true ↔ _
  simp

theorem isAlphanum_iff (c : Char)
    : c.isAlphanum = true ↔ ('A' ≤ c ∧ c ≤ 'Z') ∨ ('a' ≤ c ∧ c ≤ 'z') ∨ ('0' ≤ c ∧ c ≤ '9') := by
  change (c.isUpper || c.isLower || c.isDigit) = true ↔ _
  rw [Bool.or_eq_true, Bool.or_eq_true, isUpper_iff, isLower_iff, isDigit_iff, or_assoc]

theorem isFirst_iff (s : Style) (c : Char) : s.isFirst c = true ↔ s.First c := by
  cases s with
  | snakeCase => simp [isFirst, First, isLower_iff]
  | camelCase => exact isLower_iff c
  | pascalCase => exact isUpper_iff c

theorem isNext_iff (s : Style) (c : Char) : s.isNext c = true ↔ s.Next c := by
  cases s with
  | snakeCase => simp [isNext, Next, isLower_iff, isDigit_iff, or_assoc]
  | camelCase => exact isAlphanum_iff c
  | pascalCase => exact isAlphanum_iff c

theorem not_next_lineFeed (s : Style) : ¬ s.Next '\n' := by
  rw [← isNext_iff]
  cases s <;> decide

theorem not_first_lineFeed (s : Style) : ¬ s.First '\n' := by
  rw [← isFirst_iff]
  cases s <;> decide

theorem accepts_iff (s : Style) (name : List Char)
    : s.accepts name = true ↔ ∃ c cs, s.First c ∧ (∀ d ∈ cs, s.Next d) ∧ name = c :: cs := by
  cases name with
  | nil => simp [accepts]
  | cons c cs => simp [accepts, isFirst_iff, isNext_iff]

theorem getLast?_ne_lineFeed {s : Style} {c : Char} {cs : List Char} (hc : s.First c)
    (hcs : ∀ d ∈ cs, s.Next d) : (c :: cs).getLast? ≠ some '\n' := by
  intro h
  cases List.mem_cons.mp (List.mem_of_getLast? h) with
  | inl heq => exact s.not_first_lineFeed (heq ▸ hc)
  | inr hmem => exact s.not_next_lineFeed (hcs _ hmem)

theorem accepts_withoutLineEnd_iff (s : Style) (name : String)
    : s.accepts (withoutLineEnd name.toList) = true ↔ s.Fits name := by
  rw [accepts_iff]
  unfold Fits
  constructor
  . rintro ⟨c, cs, hc, hcs, h⟩
    exact ⟨c, cs, hc, hcs, (withoutLineEnd_eq_iff (getLast?_ne_lineFeed hc hcs)).mp h⟩
  . rintro ⟨c, cs, hc, hcs, h⟩
    exact ⟨c, cs, hc, hcs, (withoutLineEnd_eq_iff (getLast?_ne_lineFeed hc hcs)).mpr h⟩

instance (s : Style) (name : String) : Decidable (s.Fits name) :=
  decidable_of_iff _ (s.accepts_withoutLineEnd_iff name)

end Style

/-! ### Names that the language gives -/

theorem isReserved_iff (name : List Char)
    : isReserved name = true ↔ ∃ inner, '\n' ∉ inner ∧ name = ['_', '_'] ++ inner ++ ['_', '_'] := by
  unfold isReserved
  simp only [Bool.and_eq_true, decide_eq_true_eq, List.isPrefixOf_iff_prefix,
    List.isSuffixOf_iff_suffix, Bool.not_eq_true', List.contains_eq_mem, decide_eq_false_iff_not]
  constructor
  . rintro ⟨⟨⟨hlength, ⟨rest, hrest⟩⟩, hsuffix⟩, hfeed⟩
    have hshort : ['_', '_'] <:+ rest := by
      apply List.suffix_of_suffix_length_le hsuffix
      . exact ⟨_, hrest⟩
      . rw [← hrest] at hlength
        simp only [List.length_append, List.length_cons, List.length_nil] at hlength ⊢
        omega
    rcases hshort with ⟨inner, hinner⟩
    refine ⟨inner, ?_, ?_⟩
    . intro hmem
      apply hfeed
      rw [← hrest, ← hinner]
      simp [hmem]
    . rw [← hrest, ← hinner, List.append_assoc]
  . rintro ⟨inner, hfeed, rfl⟩
    refine ⟨⟨⟨?_, ?_⟩, ?_⟩, ?_⟩
    . simp
    . rw [List.append_assoc]
      exact List.prefix_append _ _
    . exact List.suffix_append _ _
    . simpa using hfeed

theorem isReserved_withoutLineEnd_iff (name : String)
    : isReserved (withoutLineEnd name.toList) = true ↔ Reserved name := by
  rw [isReserved_iff]
  unfold Reserved
  have hlast : ∀ inner, (['_', '_'] ++ inner ++ ['_', '_'] : List Char).getLast? ≠ some '\n' := by
    intro inner
    rw [List.getLast?_append]
    simp
  constructor
  . rintro ⟨inner, hfeed, h⟩
    exact ⟨inner, hfeed, (withoutLineEnd_eq_iff (hlast inner)).mp h⟩
  . rintro ⟨inner, hfeed, h⟩
    exact ⟨inner, hfeed, (withoutLineEnd_eq_iff (hlast inner)).mpr h⟩

instance (name : String) : Decidable (Reserved name) :=
  decidable_of_iff _ (isReserved_withoutLineEnd_iff name)

/-! ### The rules of the library -/

theorem mem_builtinRules {spec : RuleSpec}
    : spec ∈ builtinRules ↔
        spec = maxComplexity ∨ spec = maxFunctionLines ∨ spec = maxParams ∨ spec = functionNaming ∨
          spec = classNaming ∨ spec = maxFileLines ∨ spec = maxClassesPerFile ∨
          spec = maxFunctionsPerFile := by
  simp [builtinRules]

end CodeAudit.Lint
