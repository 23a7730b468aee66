import CodeAudit.Proofs.Route
import Mathlib.Data.List.Nodup

/-!
This module contains what a search by the ending of names finds: everything below a folder whose name has
the ending, and nothing twice.
-/

namespace CodeAudit

/-! ### Patterns that start with a star -/

namespace Text

namespace Wildcard

/--
The characters that stand for themselves in a pattern.
-/
def IsPlain (c : Char) : Prop :=
  c ≠ '*' ∧ c ≠ '?' ∧ c ≠ '['

instance (c : Char) : Decidable (IsPlain c) :=
  inferInstanceAs (Decidable (_ ∧ _))

theorem anyRest_iff {p : List Char → Bool} {cs : List Char}
    : anyRest p cs = true ↔ ∃ rest, rest <:+ cs ∧ p rest = true := by
  induction cs with
  | nil => simp [anyRest]
  | cons c cs ih =>
    rw [anyRest, Bool.or_eq_true, ih]
    constructor
    . rintro (h | ⟨rest, hrest, h⟩)
      . exact ⟨c :: cs, List.suffix_rfl, h⟩
      . exact ⟨rest, hrest.trans (List.suffix_cons c cs), h⟩
    . rintro ⟨rest, hrest, h⟩
      rcases List.suffix_cons_iff.mp hrest with rfl | hrest
      . exact Or.inl h
      . exact Or.inr ⟨rest, hrest, h⟩

theorem covers_literals_append {cs : List Char} (rest : List Item) {text : List Char}
    : covers (cs.map .literal ++ rest) text = true ↔ ∃ tail, cs ++ tail = text ∧ covers rest tail = true := by
  induction cs generalizing text with
  | nil => simp
  | cons c cs ih =>
    cases text with
    | nil => simp [covers]
    | cons d text =>
      simp only [List.map_cons, List.cons_append, covers, Item.accepts, Bool.and_eq_true, beq_iff_eq, ih,
        List.cons.injEq]
      constructor
      . rintro ⟨hc, tail, htail, hrest⟩
        exact ⟨tail, ⟨hc, htail⟩, hrest⟩
      . rintro ⟨tail, ⟨hc, htail⟩, hrest⟩
        exact ⟨hc, tail, htail, hrest⟩

theorem covers_literals {cs text : List Char} : covers (cs.map .literal) text = true ↔ cs = text := by
  rw [← List.append_nil (cs.map Item.literal), covers_literals_append]
  simp [covers]

theorem items_cons {c : Char} (hc : IsPlain c) (rest : List Char) : items (c :: rest) = .literal c :: items rest := by
  change items.go 0 (c :: rest) = .literal c :: items.go 0 rest
  rw [items.go]
  . exact hc.1
  . exact hc.2.1
  . exact hc.2.2

theorem items_plain_append {cs : List Char} (h : ∀ c ∈ cs, IsPlain c) (rest : List Char)
    : items (cs ++ rest) = cs.map .literal ++ items rest := by
  induction cs with
  | nil => rfl
  | cons c cs ih =>
    rw [List.forall_mem_cons] at h
    rw [List.cons_append, items_cons h.1, ih h.2, List.map_cons, List.cons_append]

theorem items_plain {cs : List Char} (h : ∀ c ∈ cs, IsPlain c) : items cs = cs.map .literal := by
  have hnil : items [] = [] := rfl
  rw [← List.append_nil cs, items_plain_append h, hnil, List.append_nil, List.append_nil]

end Wildcard

theorem matchesWildcard_star {ending text : List Char} (h : ∀ c ∈ ending, Wildcard.IsPlain c)
    : matchesWildcard ('*' :: ending) text = true ↔ ending <:+ text := by
  have hitems : Wildcard.items ('*' :: ending) = .star :: ending.map .literal := by
    rw [← Wildcard.items_plain h]
    cases ending with
    | nil => rfl
    | cons c rest =>
      have hc : (some c == some '*') = false := by simpa using (h c List.mem_cons_self).1
      unfold Wildcard.items
      simp [Wildcard.items.go, hc]
  unfold matchesWildcard
  rw [hitems, Wildcard.covers, Wildcard.anyRest_iff]
  simp only [Wildcard.covers_literals]
  constructor
  . rintro ⟨rest, hrest, rfl⟩
    exact hrest
  . intro hending
    exact ⟨ending, hending, rfl⟩

end Text

namespace Files

/-! ### What stands below a folder -/

namespace Path

/--
The path of something that is several steps below a folder.
-/
def descend (p : Path) (steps : List String) : Path :=
  { p with parts := p.parts ++ steps }

theorem descend_nil (p : Path) : p.descend [] = p := by
  unfold descend
  rw [List.append_nil]

theorem descend_child (p : Path) (name : String) (steps : List String)
    : (p.child name).descend steps = p.descend (name :: steps) := by
  unfold descend child
  rw [List.append_assoc, List.singleton_append]

theorem child_descend (p : Path) (steps : List String) (name : String)
    : (p.descend steps).child name = p.descend (steps ++ [name]) := by
  unfold descend child
  rw [List.append_assoc]

end Path

namespace Store

variable {s : Store} {p q : Path} {parts : List String}

/--
Everything below a folder, at any depth, with its path from the folder on.
-/
def Below (s : Store) (folder p : Path) (c : Content) : Prop :=
  ∃ parts steps, s.folderParts? folder = some parts ∧ steps ≠ [] ∧
    s.content? (parts ++ steps) = some c ∧ p = folder.descend steps

theorem mem_list (hs : s.IsTree) {name : String} {isFolder : Bool}
    : (name, isFolder) ∈ s.list parts ↔
        ∃ c, s.content? (parts ++ [name]) = some c ∧ (isFolder = true ↔ c = .folder) := by
  unfold list
  rw [List.mem_filterMap]
  constructor
  . rintro ⟨⟨path, c⟩, hentry, h⟩
    cases hlast : path.getLast? with
    | none => simp [hlast] at h
    | some last =>
      simp only [hlast] at h
      split at h
      next hparts =>
        have hpath : path = parts ++ [last] := by
          rw [← beq_iff_eq.mp hparts]
          exact (List.dropLast_append_getLast? last hlast).symm
        cases h
        refine ⟨c, (content?_eq_some_iff hs (by simp)).mpr (hpath ▸ hentry), ?_⟩
        cases c <;> simp
      next => cases h
  . rintro ⟨c, hc, hfolder⟩
    refine ⟨(parts ++ [name], c), (content?_eq_some_iff hs (by simp)).mp hc, ?_⟩
    cases c with
    | folder => simp [hfolder.mpr rfl]
    | file bytes =>
      have hfile : isFolder = false := by simpa using hfolder
      simp [hfile]

theorem mem_children (hs : s.IsTree) (h : s.Leads p parts) {name : String} {isFolder : Bool}
    : (q, name, isFolder) ∈ s.children p ↔
        q = p.child name ∧ ∃ c, s.content? (parts ++ [name]) = some c ∧ (isFolder = true ↔ c = .folder) := by
  unfold children
  rw [h.folder, ← mem_list hs, List.mem_map]
  constructor
  . rintro ⟨⟨name', isFolder'⟩, hlisted, heq⟩
    cases heq
    exact ⟨rfl, hlisted⟩
  . rintro ⟨rfl, hlisted⟩
    exact ⟨(name, isFolder), hlisted, rfl⟩

/--
No way in the store is longer than its entries are many.
-/
theorem IsTree.length_le (hs : s.IsTree) {steps : List String} {c : Content}
    (h : s.content? (parts ++ steps) = some c) : steps.length ≤ s.entries.length := by
  have hkeys : (List.range steps.length).map (fun n => parts ++ steps.take (n + 1)) ⊆
      s.entries.map (·.1) := by
    intro key hkey
    rcases List.mem_map.mp hkey with ⟨n, hn, rfl⟩
    have hlt := List.mem_range.mp hn
    have hne : parts ++ steps.take (n + 1) ≠ [] := by
      intro hnil
      have hlength := congrArg List.length hnil
      simp only [List.length_append, List.length_take, List.length_nil] at hlength
      omega
    have hthere : ∃ c, s.content? (parts ++ steps.take (n + 1)) = some c := by
      rw [← List.take_append_drop (n + 1) steps, ← List.append_assoc] at h
      by_cases hrest : steps.drop (n + 1) = []
      . rw [hrest, List.append_nil] at h
        exact ⟨c, h⟩
      . exact ⟨.folder, hs.above h hrest⟩
    rcases hthere with ⟨c', hc'⟩
    exact List.mem_map_of_mem ((content?_eq_some_iff hs hne).mp hc')
  have hdistinct : ((List.range steps.length).map fun n => parts ++ steps.take (n + 1)).Nodup := by
    refine List.Nodup.map_on ?_ List.nodup_range
    intro n hn m hm heq
    have hlength := congrArg List.length heq
    simp only [List.length_append, List.length_take] at hlength
    rw [List.mem_range] at hn hm
    omega
  simpa using hdistinct.length_le_of_subset hkeys

-- A search with too little fuel misses only what is deeper than the fuel is much.
theorem mem_foldersFrom_go (hs : s.IsTree) (h : s.Leads p parts) {fuel : Nat}
    : q ∈ foldersFrom.go s fuel p ↔
        ∃ steps, steps.length ≤ fuel ∧ s.content? (parts ++ steps) = some .folder ∧ q = p.descend steps := by
  induction fuel generalizing p parts with
  | zero =>
    rw [foldersFrom.go, List.mem_singleton]
    constructor
    . rintro rfl
      exact ⟨[], Nat.le_refl 0, by simpa using h.content? hs, (Path.descend_nil q).symm⟩
    . rintro ⟨steps, hlength, _, rfl⟩
      rw [List.length_eq_zero_iff.mp (Nat.le_zero.mp hlength), Path.descend_nil]
  | succ fuel ih =>
    rw [foldersFrom.go, List.mem_cons, List.mem_flatMap]
    constructor
    . rintro (rfl | ⟨⟨p', name, isFolder⟩, hchild, hq⟩)
      . exact ⟨[], Nat.zero_le _, by simpa using h.content? hs, (Path.descend_nil q).symm⟩
      . rcases List.mem_filter.mp hchild with ⟨hchild, hisFolder⟩
        rcases (mem_children hs h).mp hchild with ⟨rfl, c, hc, hfolder⟩
        cases hfolder.mp hisFolder
        rcases (ih (h.child hs hc)).mp hq with ⟨steps, hlength, hsteps, rfl⟩
        refine ⟨name :: steps, by simpa using hlength, ?_, Path.descend_child p name steps⟩
        rw [List.append_assoc] at hsteps
        exact hsteps
    . rintro ⟨steps, hlength, hfolder, rfl⟩
      cases steps with
      | nil => exact Or.inl (Path.descend_nil p)
      | cons name rest =>
        have hfirst : s.content? (parts ++ [name]) = some .folder := by
          by_cases hrest : rest = []
          . rw [hrest] at hfolder
            exact hfolder
          . rw [← List.singleton_append, ← List.append_assoc] at hfolder
            exact hs.above hfolder hrest
        refine Or.inr ⟨(p.child name, name, true), ?_, ?_⟩
        . refine List.mem_filter.mpr ⟨(mem_children hs h).mpr ⟨rfl, .folder, hfirst, by simp⟩, rfl⟩
        . refine (ih (h.child hs hfirst)).mpr ⟨rest, by simpa using hlength, ?_, ?_⟩
          . rw [List.append_assoc]
            exact hfolder
          . exact (Path.descend_child p name rest).symm

theorem mem_foldersFrom (hs : s.IsTree) (h : s.Leads p parts)
    : q ∈ s.foldersFrom p ↔ ∃ steps, s.content? (parts ++ steps) = some .folder ∧ q = p.descend steps := by
  unfold foldersFrom
  rw [mem_foldersFrom_go hs h]
  constructor
  . rintro ⟨steps, _, hfolder, hq⟩
    exact ⟨steps, hfolder, hq⟩
  . rintro ⟨steps, hfolder, hq⟩
    exact ⟨steps, Nat.le_succ_of_le (hs.length_le hfolder), hfolder, hq⟩

theorem Leads.descend (hs : s.IsTree) (h : s.Leads p parts) {steps : List String}
    (hfolder : s.content? (parts ++ steps) = some .folder) : s.Leads (p.descend steps) (parts ++ steps) := by
  induction steps using List.reverseRecOn with
  | nil =>
    rw [Path.descend_nil, List.append_nil]
    exact h
  | append_singleton steps name ih =>
    rw [← List.append_assoc] at hfolder
    rw [← Path.child_descend, ← List.append_assoc]
    exact (ih (hs.above hfolder (by simp))).child hs hfolder

-- What stands below is in a folder that is the folder itself or below it.
theorem below_iff {folder : Path} {c : Content}
    : s.Below folder p c ↔
        ∃ parts above name, s.folderParts? folder = some parts ∧
          s.content? (parts ++ above ++ [name]) = some c ∧ p = (folder.descend above).child name := by
  constructor
  . rintro ⟨parts, steps, hparts, hsteps, hc, rfl⟩
    rcases List.eq_nil_or_concat steps with hnil | ⟨above, name, rfl⟩
    . exact absurd hnil hsteps
    . rw [List.concat_eq_append] at hc ⊢
      rw [← List.append_assoc] at hc
      exact ⟨parts, above, name, hparts, hc, (Path.child_descend folder above name).symm⟩
  . rintro ⟨parts, above, name, hparts, hc, rfl⟩
    rw [List.append_assoc] at hc
    exact ⟨parts, above ++ [name], hparts, by simp, hc, Path.child_descend folder above name⟩

theorem Below.proper (hs : s.IsTree) {text : String} {c : Content}
    (h : s.Below (Path.ofString text) p c) : p.Proper := by
  rcases below_iff.mp h with ⟨parts, above, name, hparts, hc, rfl⟩
  exact ((leads_ofString hparts).descend hs (hs.above hc (by simp))).child_proper hs hc

theorem Below.unique {c c' : Content} {folder : Path} (h : s.Below folder p c) (h' : s.Below folder p c')
    : c = c' := by
  rcases h with ⟨parts, steps, hparts, _, hc, rfl⟩
  rcases h' with ⟨parts', steps', hparts', _, hc', hsteps⟩
  cases hparts.symm.trans hparts'
  have hsame : folder.parts ++ steps = folder.parts ++ steps' := congrArg Path.parts hsteps
  cases List.append_cancel_left hsame
  exact Option.some.inj (hc.symm.trans hc')

/-! ### The search -/

theorem nodup_eraseDups {α : Type} [BEq α] [LawfulBEq α] (as : List α) : as.eraseDups.Nodup := by
  match as with
  | [] => simp
  | a :: rest =>
    rw [List.eraseDups_cons, List.nodup_cons, List.mem_eraseDups]
    exact ⟨by simp, nodup_eraseDups _⟩
termination_by as.length
decreasing_by
  simpa using Nat.lt_succ_of_le (List.length_filter_le _ rest)

theorem mem_select_wildcard (hs : s.IsTree) (h : s.Leads p parts) {pattern : String}
    : q ∈ s.select [.wildcard pattern] p ↔
        ∃ name c, s.content? (parts ++ [name]) = some c ∧
          Text.matchesWildcard pattern.toList name.toList = true ∧ q = p.child name := by
  have hselect : s.select [.wildcard pattern] p = ((s.children p).filter fun c =>
      Text.matchesWildcard pattern.toList c.2.1.toList).map (·.1) := by
    rw [List.map_eq_flatMap]
    simp [select]
  rw [hselect, List.mem_map]
  constructor
  . rintro ⟨⟨q', name, isFolder⟩, hfound, rfl⟩
    rcases List.mem_filter.mp hfound with ⟨hchild, hmatches⟩
    rcases (mem_children hs h).mp hchild with ⟨rfl, c, hc, _⟩
    exact ⟨name, c, hc, hmatches, rfl⟩
  . rintro ⟨name, c, hc, hmatches, rfl⟩
    refine ⟨(p.child name, name, decide (c = .folder)), ?_, rfl⟩
    exact List.mem_filter.mpr ⟨(mem_children hs h).mpr ⟨rfl, c, hc, by simp⟩, hmatches⟩

/--
A search for names finds what stands below the folder, at any depth, under a name that the pattern stands for.
-/
theorem mem_glob (hs : s.IsTree) {text pattern : String}
    : q ∈ s.glob (Path.ofString text) [.folders, .wildcard pattern] ↔
        ∃ c, s.Below (Path.ofString text) q c ∧
          ∃ name ∈ q.parts.getLast?, Text.matchesWildcard pattern.toList name.toList = true := by
  simp only [below_iff]
  unfold glob
  cases hparts : s.folderParts? (Path.ofString text) with
  | none => simp
  | some parts =>
    have hleads := leads_ofString hparts
    change q ∈ ((s.foldersFrom _).flatMap (s.select [.wildcard pattern])).eraseDups ↔ _
    rw [List.mem_eraseDups, List.mem_flatMap]
    constructor
    . rintro ⟨folder, hfolder, hq⟩
      rcases (mem_foldersFrom hs hleads).mp hfolder with ⟨above, habove, rfl⟩
      rcases (mem_select_wildcard hs (hleads.descend hs habove)).mp hq with ⟨name, c, hc, hmatches, rfl⟩
      exact ⟨c, ⟨parts, above, name, rfl, hc, rfl⟩, name, List.getLast?_concat, hmatches⟩
    . rintro ⟨c, ⟨parts', above, name, hparts', hc, rfl⟩, last, hlast, hmatches⟩
      cases hparts'
      have hname : name = last := by simpa [Path.child] using hlast
      rw [← hname] at hmatches
      have habove := hs.above hc (by simp)
      refine ⟨(Path.ofString text).descend above, (mem_foldersFrom hs hleads).mpr ⟨above, habove, rfl⟩, ?_⟩
      exact (mem_select_wildcard hs (hleads.descend hs habove)).mpr ⟨name, c, hc, hmatches, rfl⟩

theorem nodup_glob (s : Store) (p : Path) (pattern : String)
    : (s.glob p [.folders, .wildcard pattern]).Nodup := by
  unfold glob
  split
  next => exact nodup_eraseDups _
  next => exact List.nodup_nil

end Store

end Files

end CodeAudit
