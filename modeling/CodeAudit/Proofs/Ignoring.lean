import CodeAudit.Proofs.Coverage

/-!
This module contains what a pattern for the folders of a name keeps from a lint. The stars in it stand for any text but
the slashes for themselves, so that it misses the folder at the start of a path without a root.
-/

namespace CodeAudit

/-! ### Text between two stars -/

namespace Text

theorem matchesWildcard_within {cs text : List Char} (hne : cs ≠ []) (h : ∀ c ∈ cs, Wildcard.IsPlain c)
    : matchesWildcard ('*' :: '*' :: (cs ++ ['*', '*'])) text = true ↔ cs <:+: text := by
  have hitems : Wildcard.items ('*' :: '*' :: (cs ++ ['*', '*'])) = .star :: (cs.map .literal ++ [.star]) := by
    have hstars : Wildcard.items ['*', '*'] = [.star] := rfl
    rw [← hstars, ← Wildcard.items_plain_append h]
    cases cs with
    | nil => exact absurd rfl hne
    | cons c rest =>
      have hc : (some c == some '*') = false := by simpa using (h c List.mem_cons_self).1
      unfold Wildcard.items
      simp [Wildcard.items.go, hc]
  have hlast (tail : List Char) : Wildcard.covers [.star] tail = true := by
    rw [Wildcard.covers, Wildcard.anyRest_iff]
    exact ⟨[], List.nil_suffix, rfl⟩
  unfold matchesWildcard
  rw [hitems, Wildcard.covers, Wildcard.anyRest_iff]
  simp only [Wildcard.covers_literals_append, hlast, and_true]
  constructor
  . rintro ⟨_, ⟨before, hbefore⟩, after, rfl⟩
    exact ⟨before, after, by rw [List.append_assoc, hbefore]⟩
  . rintro ⟨before, after, htext⟩
    rw [List.append_assoc] at htext
    exact ⟨cs ++ after, ⟨before, htext⟩, after, rfl⟩

end Text

/-! ### Parts of paths -/

namespace Files.Path

variable {p : Path} {name : String}

theorem mem_dropLast_tail_iff {α : Type} {as : List α} {a : α}
    : a ∈ as.dropLast.tail ↔ ∃ above below, as = above ++ a :: below ∧ above ≠ [] ∧ below ≠ [] := by
  constructor
  . intro h
    cases as with
    | nil => cases h
    | cons first rest =>
      rcases List.eq_nil_or_concat' rest with rfl | ⟨inner, last, rfl⟩
      . cases h
      . rw [← List.cons_append, List.dropLast_concat, List.tail_cons] at h
        rcases List.append_of_mem h with ⟨above, below, rfl⟩
        exact ⟨first :: above, below ++ [last], by simp, by simp, by simp⟩
  . rintro ⟨above, below, rfl, habove, hbelow⟩
    rw [List.dropLast_append_of_ne_nil (by simp), List.dropLast_cons_of_ne_nil hbelow,
      List.tail_append_of_ne_nil habove]
    exact List.mem_append_right _ List.mem_cons_self

theorem intercalate_append {α : Type} {sep : List α} {as bs : List (List α)} (has : as ≠ []) (hbs : bs ≠ [])
    : sep.intercalate (as ++ bs) = sep.intercalate as ++ sep ++ sep.intercalate bs := by
  induction as with
  | nil => exact absurd rfl has
  | cons a rest ih =>
    by_cases hrest : rest = []
    . rw [hrest, List.singleton_append, List.intercalate_cons_of_ne_nil hbs, List.intercalate_singleton]
    . rw [List.cons_append, List.intercalate_cons_of_ne_nil (by simp [hrest]), ih hrest,
        List.intercalate_cons_of_ne_nil hrest]
      simp only [List.append_assoc]

/--
A piece of a text stands in it between slashes exactly if it is neither the first nor the last.
-/
theorem between_slashes_iff {cs text : List Char} (hcs : '/' ∉ cs)
    : '/' :: (cs ++ ['/']) <:+: text ↔ cs ∈ (text.splitOn '/').dropLast.tail := by
  rw [mem_dropLast_tail_iff]
  constructor
  . rintro ⟨before, after, rfl⟩
    refine ⟨before.splitOn '/', after.splitOn '/', ?_, by simp, by simp⟩
    have hcut : before ++ '/' :: (cs ++ ['/']) ++ after = before ++ '/' :: (cs ++ '/' :: after) := by simp
    rw [hcut, List.splitOn_append_cons_self, List.splitOn_append_cons_self, List.splitOn_eq_singleton hcs]
    simp
  . rintro ⟨above, below, hsplit, habove, hbelow⟩
    refine ⟨['/'].intercalate above, ['/'].intercalate below, ?_⟩
    have htext : ['/'].intercalate (text.splitOn '/') = text := List.intercalate_splitOn '/'
    rw [← htext, hsplit, intercalate_append habove (by simp),
      List.intercalate_cons_of_ne_nil hbelow]
    simp

/--
The parts of the text of a path that have a slash before and after them. Without a root there is none before the
first part, and with a root of two slashes there is an empty part between these.
-/
def slashed (p : Path) : List String :=
  if p.root = "" then p.parts.dropLast.tail
  else if p.root = "/" then p.parts.dropLast
  else "" :: p.parts.dropLast

theorem dropLast_splitOn_joined (hp : p.Proper)
    : ((p.joined.splitOn '/').map String.ofList).dropLast = p.parts.dropLast := by
  by_cases hparts : p.parts = []
  . rw [joined_of_nil hparts, hparts]
    rfl
  . rw [splitOn_joinedParts hp hparts]
    simp

theorem slashed_eq (hp : p.Proper)
    : p.slashed = ((p.toString.toList.splitOn '/').map String.ofList).dropLast.tail := by
  unfold slashed
  by_cases hdot : p.root = "" ∧ p.parts = []
  . rw [toString_of_nil hdot.1 hdot.2, if_pos hdot.1, hdot.2]
    decide
  . rw [splitOn_toString hp hdot, List.dropLast_append_of_ne_nil (by simp), dropLast_splitOn_joined hp]
    rcases hp.root with hroot | hroot | hroot
    all_goals
      rw [hroot]
      simp

theorem between_slashes_toString_iff (hp : p.Proper) (hname : '/' ∉ name.toList)
    : '/' :: (name.toList ++ ['/']) <:+: p.toString.toList ↔ name ∈ p.slashed := by
  rw [between_slashes_iff hname, slashed_eq hp, ← List.map_dropLast, ← List.map_tail, List.mem_map]
  constructor
  . intro h
    exact ⟨name.toList, h, String.ofList_toList⟩
  . rintro ⟨cs, hcs, rfl⟩
    rw [String.toList_ofList]
    exact hcs

end Files.Path

/-! ### Ignored folders -/

namespace Lint.Engine

open Files

/--
The pattern for what is in the folders of a name.
-/
def folderPattern (name : String) : String :=
  "**/" ++ name ++ "/**"

/--
The name has no slash and no character that means something else in a pattern.
-/
def IsLiteral (name : String) : Prop :=
  ∀ c ∈ name.toList, c ∉ ['*', '?', '[', ']', '/']

/--
The configuration of the engine has these patterns for paths to ignore.
-/
def HasPatterns (e : Engine) (patterns : List String) : Prop :=
  ∃ c, e.config = some c ∧ c.ignorePatterns = .list (patterns.map .text)

/--
A path is ignored by another pattern than that for the folders of a name.
-/
def OtherwiseIgnored (patterns : List String) (name path : String) : Prop :=
  ∃ pattern ∈ patterns, pattern ≠ folderPattern name ∧ Text.matchesWildcard pattern.toList path.toList = true

variable {e : Engine} {patterns : List String} {name : String} {p : Path}

theorem matchesAny_texts (path : String) (patterns : List String)
    : matchesAny path (patterns.map .text) =
        .ok (patterns.any fun pattern => Text.matchesWildcard pattern.toList path.toList) := by
  induction patterns with
  | nil => rfl
  | cons pattern rest ih =>
    rw [List.map_cons, matchesAny, ih, List.any_cons]
    split
    . next h => rw [h, Bool.true_or]
    . next h =>
      rw [Bool.not_eq_true] at h
      rw [h, Bool.false_or]

theorem HasPatterns.ignores_eq (he : e.HasPatterns patterns) (path : String)
    : e.ignores path = .ok (patterns.any fun pattern => Text.matchesWildcard pattern.toList path.toList) := by
  rcases he with ⟨c, hc, hpatterns⟩
  unfold ignores
  rw [hc]
  dsimp only
  rw [hpatterns]
  cases patterns with
  | nil => rfl
  | cons pattern rest =>
    change orFault (matchesAny path (List.map Value.text (pattern :: rest))) = _
    rw [matchesAny_texts]
    rfl

theorem matches_folderPattern (hname : IsLiteral name) (hp : p.Proper)
    : Text.matchesWildcard (folderPattern name).toList p.toString.toList = true ↔ name ∈ p.slashed := by
  have hpattern : (folderPattern name).toList = '*' :: '*' :: (('/' :: (name.toList ++ ['/'])) ++ ['*', '*']) := by
    unfold folderPattern
    simp
  have hplain : ∀ c ∈ '/' :: (name.toList ++ ['/']), Text.Wildcard.IsPlain c := by
    have hslash : Text.Wildcard.IsPlain '/' := by decide
    rw [List.forall_mem_cons, List.forall_mem_append, List.forall_mem_singleton]
    refine ⟨hslash, fun c hc => ?_, hslash⟩
    have hnot := hname c hc
    simp only [List.mem_cons, not_or] at hnot
    exact ⟨hnot.1, hnot.2.1, hnot.2.2.1⟩
  have hslash : '/' ∉ name.toList := fun h => hname '/' h (by simp)
  rw [hpattern, Text.matchesWildcard_within (by simp) hplain, Path.between_slashes_toString_iff hp hslash]

theorem ignores_folder (he : e.HasPatterns patterns) (hname : IsLiteral name) (hmem : folderPattern name ∈ patterns)
    (hp : p.Proper)
    : ∃ ignored, e.ignores p.toString = .ok ignored ∧
        (ignored = true ↔ name ∈ p.slashed ∨ OtherwiseIgnored patterns name p.toString) := by
  refine ⟨_, he.ignores_eq p.toString, ?_⟩
  rw [List.any_eq_true, ← matches_folderPattern hname hp]
  constructor
  . rintro ⟨pattern, hpattern, hmatches⟩
    by_cases heq : pattern = folderPattern name
    . rw [heq] at hmatches
      exact Or.inl hmatches
    . exact Or.inr ⟨pattern, hpattern, heq, hmatches⟩
  . rintro (hmatches | ⟨pattern, hpattern, _, hmatches⟩)
    . exact ⟨_, hmem, hmatches⟩
    . exact ⟨pattern, hpattern, hmatches⟩

theorem mem_results_iff {w : Workspace} {paths : List String} {report : Report}
    (h : e.lintFiles w paths = .ok report) {path : String}
    : path ∈ report.results.map (·.path) ↔ path ∈ paths ∧ e.ignores path = .ok false := by
  rcases lintFiles_eq_ok_iff.mp h with ⟨_, hresults⟩
  have hpaths : report.results.map (·.path) = paths.filter e.keeps :=
    map_path_results (map_eq_ok_iff.mpr ⟨_, hresults, rfl⟩)
  rw [hpaths, List.mem_filter]
  apply and_congr_right'
  unfold keeps
  cases e.ignores path with
  | error f => simp
  | ok ignored => simp

/--
With the pattern for the folders of a name, a path is ignored if the name is one of its parts, the last and, without a
root, the first apart, or if another pattern stands for it, and not otherwise. So the lint of a folder leaves out what
is in such a folder further down, and looks at what is in one that the path starts with.
-/
theorem ignores_folder_below (e : Engine) (patterns : List String) (he : e.HasPatterns patterns) (name : String)
    (hname : IsLiteral name) (hmem : folderPattern name ∈ patterns)
    : (∀ p : Path, p.Proper →
        ∃ ignored, e.ignores p.toString = .ok ignored ∧
          (ignored = true ↔ name ∈ p.slashed ∨ OtherwiseIgnored patterns name p.toString)) ∧
      ∀ (files : Store) (tools : Tools) (folder : String) (report : Report), files.IsTree →
        e.lintFolder ⟨files, tools, .standard⟩ folder true none = .ok report →
        ∀ p c, files.Below (.ofString folder) p c → (∃ ending ∈ Registry.endings, p.HasEnding ending) →
          (p.toString ∈ report.results.map (·.path) ↔
            name ∉ p.slashed ∧ ¬ OtherwiseIgnored patterns name p.toString) := by
  refine ⟨fun p hp => ignores_folder he hname hmem hp, ?_⟩
  intro files tools folder report hs hlint p c hbelow hending
  rw [lintFolder_eq_lintFiles] at hlint
  have hsought : p.toString ∈ sought files folder := (mem_sought hs).mpr ⟨p, c, hbelow, hending, rfl⟩
  rcases ignores_folder he hname hmem (hbelow.proper hs) with ⟨ignored, hignores, hiff⟩
  rw [mem_results_iff hlint, hignores, ← not_or, ← hiff]
  simp [hsought]

/--
An engine that ignores some files and what others have made.
-/
def vendored : Engine where
  config := some { ignorePatterns := .list [.text "old*", .text "**/node_modules/**"] }

/--
A folder with a folder of that name in it, and another one further down.
-/
def vendorFiles : Store where
  entries :=
    [(["node_modules"], .folder), (["node_modules", "x.py"], .file [120, 32, 61, 32, 49, 10]), (["web"], .folder),
      (["web", "node_modules"], .folder), (["web", "node_modules", "y.py"], .file []), (["old.py"], .file [])]

theorem ignores_folder_below_vendored
    : vendored.HasPatterns ["old*", folderPattern "node_modules"] ∧ IsLiteral "node_modules" ∧ vendorFiles.IsTree ∧
      vendored.ignores "web/node_modules/y.py" = .ok true ∧
      ∃ report, vendored.lintFolder ⟨vendorFiles, .bare, .standard⟩ "." true none = .ok report ∧
        "web/node_modules/y.py" ∉ report.results.map (·.path) := by
  have hpatterns : vendored.HasPatterns ["old*", folderPattern "node_modules"] := ⟨_, rfl, rfl⟩
  have hname : IsLiteral "node_modules" := by
    have hall : "node_modules".toList.all (fun c => decide (c ∉ ['*', '?', '[', ']', '/'])) = true := by decide
    intro c hc
    exact of_decide_eq_true (List.all_eq_true.mp hall c hc)
  have htree : vendorFiles.IsTree := ⟨by decide, by decide, by decide, rfl⟩
  have hbelow := ignores_folder_below vendored _ hpatterns "node_modules" hname (by simp)
  let path : Files.Path := ⟨"", ["web", "node_modules", "y.py"]⟩
  have hpath : path.Proper := ⟨Or.inl rfl, by decide⟩
  have hends : (vendored.lintFolder ⟨vendorFiles, .bare, .standard⟩ "." true none).isOk = true := by decide +kernel
  refine ⟨hpatterns, hname, htree, ?_, ?_⟩
  . rcases hbelow.1 _ hpath with ⟨ignored, hignores, hiff⟩
    cases hiff.mpr (Or.inl (by decide))
    exact hignores
  . cases hreport : vendored.lintFolder ⟨vendorFiles, .bare, .standard⟩ "." true none with
    | error f =>
      rw [hreport] at hends
      cases hends
    | ok report =>
      refine ⟨report, rfl, fun hmem => ?_⟩
      have hiff := hbelow.2 vendorFiles .bare "." report htree hreport path (.file [])
        ⟨[], ["web", "node_modules", "y.py"], rfl, by simp, rfl, rfl⟩ ⟨".py", by decide, "y.py", rfl, by decide⟩
      exact (hiff.mp hmem).1 (by decide)

/--
The folder that the path starts with is one of its folders, and what is in it is not ignored.
-/
theorem ignores_misses_first
    : (Path.ofString "node_modules/x.py").parts.dropLast = ["node_modules"] ∧
      vendored.ignores "node_modules/x.py" = .ok false ∧
      (vendored.lintFolder ⟨vendorFiles, .bare, .standard⟩ "." true none).map
          (fun report => report.results.map (·.path)) =
        .ok ["node_modules/x.py"] := by
  decide +kernel

end Lint.Engine

end CodeAudit
