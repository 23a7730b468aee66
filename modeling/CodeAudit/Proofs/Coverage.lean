import CodeAudit.Proofs.Batch
import CodeAudit.Proofs.Search
import CodeAudit.Proofs.Table

/-!
This module contains which files the lint of a folder looks at, and how these compare with the files that
have a front end.
-/

namespace CodeAudit

/-! ### Endings and suffixes -/

namespace Files.Path

theorem nameSuffix_append (stem : List Char) {tail : List Char} (hdot : '.' ∉ tail) (htail : tail ≠ [])
    : nameSuffix (stem ++ '.' :: tail) = if stem = [] then [] else '.' :: tail := by
  have hending : ((stem ++ '.' :: tail).reverse.takeWhile (· != '.')).reverse = tail := by
    have hreverse : (stem ++ '.' :: tail).reverse = tail.reverse ++ '.' :: stem.reverse := by simp
    have hall : ∀ c ∈ tail.reverse, (c != '.') = true := by
      intro c hc
      rw [bne_iff_ne]
      rintro rfl
      exact hdot (List.mem_reverse.mp hc)
    rw [hreverse, List.takeWhile_append_of_pos hall, List.takeWhile_cons_of_neg (by simp)]
    simp
  unfold nameSuffix
  dsimp only
  rw [hending]
  by_cases hstem : stem = []
  . simp [hstem]
  . have hlength : 0 < stem.length := List.length_pos_iff.mpr hstem
    have hfar : ¬ (stem ++ '.' :: tail).length - tail.length ≤ 1 := by
      rw [List.length_append, List.length_cons]
      omega
    have hkeep : (decide ((stem ++ '.' :: tail).length - tail.length ≤ 1) || tail.isEmpty) = false := by
      rw [decide_eq_false hfar]
      simpa using htail
    rw [hkeep, if_neg hstem]
    rfl

theorem nameSuffix_suffix (name : List Char) : nameSuffix name <:+ name := by
  unfold nameSuffix
  dsimp only
  split
  next => exact List.nil_suffix
  next h =>
    have hsplit := List.takeWhile_append_dropWhile (p := (· != '.')) (l := name.reverse)
    have hhead := List.head?_dropWhile_not (· != '.') name.reverse
    cases hrest : name.reverse.dropWhile (· != '.') with
    | nil =>
      rw [hrest, List.append_nil] at hsplit
      rw [hsplit] at h
      simp at h
    | cons c rest =>
      rw [hrest] at hsplit hhead
      have hc : c = '.' := by simpa using hhead
      rw [hc] at hsplit
      have hname := congrArg List.reverse hsplit
      exact ⟨rest.reverse, by simpa using hname⟩

/--
The name at the end of the path has the given ending.
-/
def HasEnding (p : Path) (ending : String) : Prop :=
  ∃ name ∈ p.parts.getLast?, ending.toList <:+ name.toList

variable {p : Path} {ending : String}

theorem hasEnding_suffix (h : p.suffix ≠ "") : p.HasEnding p.suffix := by
  unfold suffix at h ⊢
  cases hlast : p.parts.getLast? with
  | none =>
    rw [hlast] at h
    exact absurd rfl h
  | some name =>
    refine ⟨name, hlast, ?_⟩
    rw [String.toList_ofList]
    exact nameSuffix_suffix name.toList

theorem suffix_of_hasEnding {tail : List Char} (hending : ending.toList = '.' :: tail) (hdot : '.' ∉ tail)
    (htail : tail ≠ []) (h : p.HasEnding ending)
    : p.suffix = if p.parts.getLast? = some ending then "" else ending := by
  rcases h with ⟨name, hlast, stem, hname⟩
  have hsuffix : p.suffix = String.ofList (nameSuffix name.toList) := by
    unfold suffix
    rw [hlast]
  have hwhole : p.parts.getLast? = some ending ↔ stem = [] := by
    rw [hlast, Option.some_inj, ← String.toList_inj, ← hname]
    simp
  rw [hsuffix, ← hname, hending, nameSuffix_append stem hdot htail]
  by_cases hstem : stem = []
  . rw [if_pos hstem, if_pos (hwhole.mpr hstem)]
  . rw [if_neg hstem, if_neg (mt hwhole.mp hstem), ← hending, String.ofList_toList]

end Files.Path

namespace Registry

/--
The endings of the files that are known from the start.
-/
def endings : List String :=
  standard.languages.names

theorem endings_form : ∀ ending ∈ endings, ∃ tail, ending.toList = '.' :: tail ∧ '.' ∉ tail ∧ tail ≠ [] := by
  intro ending h
  refine ⟨ending.toList.tail, ?_⟩
  revert ending
  decide

theorem endings_plain {ending : String} (h : ending ∈ endings) : ∀ c ∈ ending.toList, Text.Wildcard.IsPlain c := by
  have hall : ∀ ending ∈ endings, ending.toList.all (fun c => decide (Text.Wildcard.IsPlain c)) = true := by
    decide
  intro c hc
  exact of_decide_eq_true (List.all_eq_true.mp (hall ending h) c hc)

theorem lower_endings : ∀ ending ∈ endings, Unicode.lower ending = ending := by
  decide +kernel

theorem endings_apart : endings.Pairwise fun a b => ¬ a.toList <:+ b.toList ∧ ¬ b.toList <:+ a.toList := by
  decide

theorem frontEndOf?_isSome_iff {p : Files.Path} (hp : p.Proper)
    : (standard.frontEndOf? p.toString).isSome = true ↔ Unicode.lower p.suffix ∈ endings := by
  have hlanguage : standard.languageOf? p.toString = standard.languages.get? (Unicode.lower p.suffix) := by
    unfold languageOf?
    rw [Files.Path.ofString_toString hp]
  unfold frontEndOf? endings
  rw [hlanguage]
  cases hget : standard.languages.get? (Unicode.lower p.suffix) with
  | none => simpa using (Table.get?_eq_none_iff _ _).mp hget
  | some language =>
    have hmem := Table.mem_of_get? hget
    refine iff_of_true ?_ (Table.mem_names_of_mem hmem)
    have hall : ∀ entry ∈ standard.languages,
        (if entry.2 == "" then none else standard.frontEnd? entry.2).isSome = true := by
      decide +kernel
    exact hall _ hmem

end Registry

namespace Files

/-! ### What has an ending and what has a front end -/

/--
What makes the two differ: a folder with a name like a file, a file whose whole name is an ending, and a
file whose ending is in other letters.
-/
inductive Odd (p : Path) : Content → Prop where
  | folder {ending : String} (hending : ending ∈ Registry.endings) (h : p.HasEnding ending) : Odd p .folder
  | bare {bytes : List Nat} {ending : String} (hending : ending ∈ Registry.endings)
      (h : p.parts.getLast? = some ending) : Odd p (.file bytes)
  | otherCase {bytes : List Nat} (hlower : Unicode.lower p.suffix ∈ Registry.endings)
      (h : p.suffix ∉ Registry.endings) : Odd p (.file bytes)

variable {p : Path}

theorem suffix_mem_endings_iff
    : p.suffix ∈ Registry.endings ↔
        ∃ ending ∈ Registry.endings, p.HasEnding ending ∧ p.parts.getLast? ≠ some ending := by
  constructor
  . intro h
    rcases Registry.endings_form _ h with ⟨tail, hform, hdot, htail⟩
    have hne : p.suffix ≠ "" := by
      intro hempty
      rw [hempty] at hform
      cases hform
    have hending := Path.hasEnding_suffix hne
    refine ⟨p.suffix, h, hending, fun hwhole => ?_⟩
    have hsuffix := Path.suffix_of_hasEnding hform hdot htail hending
    rw [if_pos hwhole] at hsuffix
    exact hne hsuffix
  . rintro ⟨ending, hmem, hending, hwhole⟩
    rcases Registry.endings_form _ hmem with ⟨tail, hform, hdot, htail⟩
    rw [Path.suffix_of_hasEnding hform hdot htail hending, if_neg hwhole]
    exact hmem

theorem lower_suffix_of_bare {ending : String} (hmem : ending ∈ Registry.endings)
    (h : p.parts.getLast? = some ending) : Unicode.lower p.suffix ∉ Registry.endings := by
  rcases Registry.endings_form _ hmem with ⟨tail, hform, hdot, htail⟩
  rw [Path.suffix_of_hasEnding hform hdot htail ⟨ending, h, List.suffix_rfl⟩, if_pos h]
  decide +kernel

theorem odd_folder_iff : Odd p .folder ↔ ∃ ending ∈ Registry.endings, p.HasEnding ending := by
  constructor
  . rintro ⟨hmem, hending⟩
    exact ⟨_, hmem, hending⟩
  . rintro ⟨ending, hmem, hending⟩
    exact .folder hmem hending

/--
A file is odd exactly if only one of two things holds: its name has an ending, and it has a front end.
-/
theorem odd_file_iff (hp : p.Proper) {bytes : List Nat}
    : Odd p (.file bytes) ↔
        ¬ ((∃ ending ∈ Registry.endings, p.HasEnding ending) ↔
          (Registry.standard.frontEndOf? p.toString).isSome = true) := by
  rw [Registry.frontEndOf?_isSome_iff hp]
  constructor
  . intro hodd hiff
    cases hodd with
    | bare hmem hwhole =>
      exact lower_suffix_of_bare hmem hwhole (hiff.mp ⟨_, hmem, _, hwhole, List.suffix_rfl⟩)
    | otherCase hlower hother =>
      rcases hiff.mpr hlower with ⟨ending, hmem, hending⟩
      by_cases hwhole : p.parts.getLast? = some ending
      . exact lower_suffix_of_bare hmem hwhole hlower
      . exact hother (suffix_mem_endings_iff.mpr ⟨ending, hmem, hending, hwhole⟩)
  . contrapose!
    intro hplain
    constructor
    . rintro ⟨ending, hmem, hending⟩
      have hsuffix :=
        suffix_mem_endings_iff.mpr ⟨ending, hmem, hending, fun hwhole => hplain (.bare hmem hwhole)⟩
      rw [Registry.lower_endings _ hsuffix]
      exact hsuffix
    . intro hlower
      have hsuffix : p.suffix ∈ Registry.endings := by
        by_contra hother
        exact hplain (.otherCase hlower hother)
      rcases suffix_mem_endings_iff.mp hsuffix with ⟨ending, hmem, hending, _⟩
      exact ⟨ending, hmem, hending⟩

end Files

/-! ### The lint of a folder -/

namespace Lint.Engine

open Files

/--
The paths that the lint of a folder goes through: ending by ending, what is found below the folder.
-/
def sought (files : Store) (folder : String) : List String :=
  Registry.endings.flatMap fun ending =>
    (files.glob (.ofString folder) [.folders, .wildcard ("*" ++ ending)]).map (·.toString)

/--
The path is that of a file or a folder below the given folder, under a name with a known ending.
-/
def IsSought (files : Store) (folder path : String) : Prop :=
  ∃ p c, files.Below (.ofString folder) p c ∧ (∃ ending ∈ Registry.endings, p.HasEnding ending) ∧
    p.toString = path

/--
The path is that of a file below the given folder, and there is a front end for it.
-/
def IsSupported (files : Store) (folder path : String) : Prop :=
  ∃ p bytes, files.Below (.ofString folder) p (.file bytes) ∧
    (Registry.standard.frontEndOf? p.toString).isSome = true ∧ p.toString = path

variable {files : Store} {folder : String}

theorem mem_glob_ending (hs : files.IsTree) {ending : String} (hmem : ending ∈ Registry.endings) {p : Path}
    : p ∈ files.glob (.ofString folder) [.folders, .wildcard ("*" ++ ending)] ↔
        (∃ c, files.Below (.ofString folder) p c) ∧ p.HasEnding ending := by
  have hpattern : ("*" ++ ending).toList = '*' :: ending.toList := by
    rw [String.toList_append]
    rfl
  rw [Store.mem_glob hs, hpattern]
  simp only [Text.matchesWildcard_star (Registry.endings_plain hmem), exists_and_right]
  rfl

theorem mem_sought (hs : files.IsTree) {path : String}
    : path ∈ sought files folder ↔ IsSought files folder path := by
  unfold sought
  rw [List.mem_flatMap]
  constructor
  . rintro ⟨ending, hmem, hfound⟩
    rcases List.mem_map.mp hfound with ⟨p, hp, hpath⟩
    rcases (mem_glob_ending hs hmem).mp hp with ⟨⟨c, hc⟩, hending⟩
    exact ⟨p, c, hc, ⟨ending, hmem, hending⟩, hpath⟩
  . rintro ⟨p, c, hc, ⟨ending, hmem, hending⟩, hpath⟩
    exact ⟨ending, hmem, List.mem_map.mpr ⟨p, (mem_glob_ending hs hmem).mpr ⟨⟨c, hc⟩, hending⟩, hpath⟩⟩

theorem nodup_sought (hs : files.IsTree) : (sought files folder).Nodup := by
  have hinj : ∀ p c q d, files.Below (.ofString folder) p c → files.Below (.ofString folder) q d →
      p.toString = q.toString → p = q :=
    fun p c q d hp hq => Path.toString_inj (hp.proper hs) (hq.proper hs)
  unfold sought
  rw [List.nodup_flatMap]
  constructor
  . intro ending hmem
    refine List.Nodup.map_on ?_ (Store.nodup_glob _ _ _)
    intro p hp q hq
    rcases (mem_glob_ending hs hmem).mp hp with ⟨⟨c, hc⟩, _⟩
    rcases (mem_glob_ending hs hmem).mp hq with ⟨⟨d, hd⟩, _⟩
    exact hinj p c q d hc hd
  . -- A name has at most one of the endings, as none of them is an ending of another.
    refine Registry.endings_apart.imp_of_mem ?_
    intro a b ha hb hapart path hpath hpath'
    rcases List.mem_map.mp hpath with ⟨p, hp, rfl⟩
    rcases List.mem_map.mp hpath' with ⟨q, hq, heq⟩
    rcases (mem_glob_ending hs ha).mp hp with ⟨⟨c, hc⟩, name, hname, hending⟩
    rcases (mem_glob_ending hs hb).mp hq with ⟨⟨d, hd⟩, name', hname', hending'⟩
    cases hinj q d p c hd hc heq
    cases Option.mem_unique hname hname'
    rcases List.suffix_or_suffix_of_suffix hending hending' with h | h
    . exact hapart.1 h
    . exact hapart.2 h

variable {e : Engine}

theorem lintFiles_eq (he : ∀ c ∈ e.config, c.ignorePatterns.isGiven = false) (w : Workspace)
    (paths : List String) : e.lintFiles w paths = (paths.mapM (e.lintFile w)).map Report.mk := by
  have hignores (path : String) : e.ignores path = .ok false := by
    unfold ignores
    split
    next => rfl
    next c hc => rw [he c hc]; rfl
  have hgo : lintFiles.go e w paths = paths.mapM (e.lintFile w) := by
    induction paths with
    | nil => rfl
    | cons path rest ih =>
      rw [lintFiles.go, hignores, ih, List.mapM_cons]
      rfl
  unfold lintFiles
  rw [hgo]
  rfl

theorem pathsWithEnding_eq (files : Store) (p : Path) {ending : String} (h : ending ∈ Registry.endings)
    : pathsWithEnding files p true ending =
        .ok ((files.glob p [.folders, .wildcard ("*" ++ ending)]).map (·.toString)) := by
  have hparts : patternParts? ("**/*" ++ ending) = some [.folders, .wildcard ("*" ++ ending)] := by
    have hendings : Registry.endings = [".py", ".js", ".jsx", ".ts", ".tsx"] := rfl
    rw [hendings] at h
    simp only [List.mem_cons, List.not_mem_nil, or_false] at h
    rcases h with rfl | rfl | rfl | rfl | rfl <;> rfl
  unfold pathsWithEnding
  rw [if_pos rfl, hparts]

theorem lintFolder_eq_lintFiles (e : Engine) (files : Store) (tools : Tools) (folder : String)
    : e.lintFolder ⟨files, tools, .standard⟩ folder true none =
        e.lintFiles ⟨files, tools, .standard⟩ (sought files folder) := by
  have hfolder (w : Workspace) : e.lintFolder w folder true none =
      (w.registry.languages.names.map Value.text).mapM (fun ending =>
        pathsWithEnding w.files (.ofString folder) true ending.display) >>= fun found =>
          e.lintFiles w found.flatten := rfl
  have hfound : (Registry.endings.map Value.text).mapM (fun ending =>
      pathsWithEnding files (.ofString folder) true ending.display) =
        .ok ((Registry.endings.map Value.text).map fun ending =>
          (files.glob (.ofString folder) [.folders, .wildcard ("*" ++ ending.display)]).map (·.toString)) := by
    apply mapM_eq_ok
    intro v hv
    rcases List.mem_map.mp hv with ⟨ending, hending, rfl⟩
    exact pathsWithEnding_eq files _ hending
  have hsought : ((Registry.endings.map Value.text).map fun ending =>
      (files.glob (.ofString folder) [.folders, .wildcard ("*" ++ ending.display)]).map
        (·.toString)).flatten = sought files folder := by
    unfold sought
    rw [List.flatMap_def, List.map_map]
    rfl
  rw [hfolder, ← hsought]
  unfold Registry.endings at hfound ⊢
  simp only [hfound, bind, Except.bind]

theorem lintFolder_eq {tools : Tools} (he : ∀ c ∈ e.config, c.ignorePatterns.isGiven = false)
    : e.lintFolder ⟨files, tools, .standard⟩ folder true none =
        ((sought files folder).mapM (e.lintFile ⟨files, tools, .standard⟩)).map Report.mk := by
  rw [lintFolder_eq_lintFiles, lintFiles_eq he]

/--
Below a folder, what is sought is what is supported exactly if nothing there is odd.
-/
theorem sought_iff_supported_iff (hs : files.IsTree)
    : (∀ path, IsSought files folder path ↔ IsSupported files folder path) ↔
        ∀ p c, files.Below (.ofString folder) p c → ¬ Odd p c := by
  constructor
  . intro hsame p c hbelow hodd
    have hp := hbelow.proper hs
    cases c with
    | folder =>
      rcases (hsame p.toString).mp ⟨p, .folder, hbelow, odd_folder_iff.mp hodd, rfl⟩ with ⟨q, bytes, hq, _, heq⟩
      cases Path.toString_inj (hq.proper hs) hp heq
      cases hbelow.unique hq
    | file bytes =>
      refine (odd_file_iff hp).mp hodd ⟨fun hending => ?_, fun hfront => ?_⟩
      . rcases (hsame p.toString).mp ⟨p, _, hbelow, hending, rfl⟩ with ⟨q, _, hq, hfront, heq⟩
        rw [heq] at hfront
        exact hfront
      . rcases (hsame p.toString).mpr ⟨p, bytes, hbelow, hfront, rfl⟩ with ⟨q, d, hq, hending, heq⟩
        cases Path.toString_inj (hq.proper hs) hp heq
        exact hending
  . intro hplain path
    have hfile {p : Path} {bytes : List Nat} (h : files.Below (.ofString folder) p (.file bytes)) :=
      not_not.mp (mt (odd_file_iff (h.proper hs)).mpr (hplain p _ h))
    constructor
    . rintro ⟨p, c, hbelow, hending, hpath⟩
      cases c with
      | folder => exact absurd (odd_folder_iff.mpr hending) (hplain p _ hbelow)
      | file bytes => exact ⟨p, bytes, hbelow, (hfile hbelow).mp hending, hpath⟩
    . rintro ⟨p, bytes, hbelow, hfront, hpath⟩
      exact ⟨p, _, hbelow, (hfile hbelow).mpr hfront, hpath⟩

theorem map_path_results {w : Workspace} {paths : List String} {report : Report}
    (h : (paths.mapM (e.lintFile w)).map Report.mk = .ok report) : report.results.map (·.path) = paths := by
  rcases map_eq_ok_iff.mp h with ⟨results, hresults, rfl⟩
  have hpaths := (mapM_eq_ok_iff.mp hresults).imp fun path result hresult => (lintFile_path hresult).1
  clear hresults h
  induction hpaths with
  | nil => rfl
  | cons hpath _ ih =>
    rw [List.map_cons, hpath]
    exact congrArg _ ih

/--
Without patterns to ignore, the lint of a folder goes through the paths of what stands below the folder
under a name with a known ending, each of them once. These are the files that have a front end exactly if
no folder there has a name like a file, no file has an ending for its name, and no file has an ending in
other letters.
-/
theorem lintFolder_covers (e : Engine) (files : Store) (tools : Tools) (folder : String) (hs : files.IsTree)
    (he : ∀ c ∈ e.config, c.ignorePatterns.isGiven = false)
    : ∃ found : List String,
        found.Nodup ∧ (∀ path, path ∈ found ↔ IsSought files folder path) ∧
        e.lintFolder ⟨files, tools, .standard⟩ folder true none =
          (found.mapM (e.lintFile ⟨files, tools, .standard⟩)).map Report.mk ∧
        (∀ report, e.lintFolder ⟨files, tools, .standard⟩ folder true none = .ok report →
          report.results.map (·.path) = found) ∧
        ((∀ path, path ∈ found ↔ IsSupported files folder path) ↔
          ∀ p c, files.Below (.ofString folder) p c → ¬ Odd p c) := by
  refine ⟨sought files folder, nodup_sought hs, fun path => mem_sought hs, lintFolder_eq he, ?_, ?_⟩
  . intro report hreport
    rw [lintFolder_eq he] at hreport
    exact map_path_results hreport
  . rw [← sought_iff_supported_iff hs]
    simp only [mem_sought hs]

/--
A folder with files in it and in a folder in it.
-/
def shelves : Store where
  entries :=
    [(["pkg"], .folder), (["pkg", "a.py"], .file [120, 32, 61, 32, 49, 10]), (["pkg", "notes.md"], .file []),
      (["pkg", "sub"], .folder), (["pkg", "sub", ".b.tsx"], .file [])]

theorem lintFolder_covers_shelves
    : shelves.IsTree ∧ (∀ c ∈ builtin.config, c.ignorePatterns.isGiven = false) ∧
      ∃ found : List String,
        found.Nodup ∧ (∀ path, path ∈ found ↔ IsSought shelves "pkg/." path) ∧
        builtin.lintFolder ⟨shelves, .bare, .standard⟩ "pkg/." true none =
          (found.mapM (builtin.lintFile ⟨shelves, .bare, .standard⟩)).map Report.mk ∧
        (∀ report, builtin.lintFolder ⟨shelves, .bare, .standard⟩ "pkg/." true none = .ok report →
          report.results.map (·.path) = found) ∧
        ((∀ path, path ∈ found ↔ IsSupported shelves "pkg/." path) ↔
          ∀ p c, shelves.Below (.ofString "pkg/.") p c → ¬ Odd p c) := by
  have htree : shelves.IsTree := ⟨by decide, by decide, by decide, rfl⟩
  have hconfig : ∀ c ∈ builtin.config, c.ignorePatterns.isGiven = false := nofun
  exact ⟨htree, hconfig, lintFolder_covers builtin shelves .bare "pkg/." htree hconfig⟩

/--
A folder with one file, whose ending is in capitals.
-/
def capitals : Store where
  entries := [(["pkg"], .folder), (["pkg", "Tool.PY"], .file [120, 32, 61, 32, 49, 10])]

theorem lintFolder_capitals
    : capitals.IsTree ∧ IsSupported capitals "pkg" "pkg/Tool.PY" ∧
      builtin.lintFolder ⟨capitals, .bare, .standard⟩ "pkg" true none = .ok ⟨[]⟩ := by
  refine ⟨⟨by decide, by decide, by decide, rfl⟩, ?_, rfl⟩
  refine ⟨⟨"", ["pkg", "Tool.PY"]⟩, _, ⟨["pkg"], ["Tool.PY"], rfl, by simp, rfl, rfl⟩, ?_, ?_⟩
  . decide +kernel
  . decide +kernel

end Lint.Engine

end CodeAudit
