import CodeAudit.Lint.ConfigFile
import CodeAudit.Proofs.Route
import CodeAudit.Proofs.WellFormed
import Mathlib.Data.List.Basic

/-!
This module contains which files a configuration depends on. Two stores in which the search for a configuration
meets the same file first give the same configuration or the same fault, whatever else is in them.
-/

namespace CodeAudit

/-! ### What stands under a path -/

namespace Files

/--
The bytes of what stands under a path, if it is a file.
-/
def Content.bytes (path : String) : Content → Except ReadFault (List Nat)
  | .file bytes => .ok bytes
  | .folder => .error (.isFolder path)

namespace Store

variable {s s' : Store} {path : String}

/--
The file or the folder under a path, if there is one.
-/
def contentAt? (s : Store) (path : String) : Option Content :=
  match s.locate path with
  | .file bytes => some (.file bytes)
  | .folder _ => some .folder
  | .missing => none
  | .notFolder => none

theorem exists?_eq (s : Store) (path : String) : s.exists? path = (s.contentAt? path).isSome := by
  unfold exists? contentAt?
  cases s.locate path with
  | file bytes => rfl
  | folder parts => rfl
  | missing => rfl
  | notFolder => rfl

theorem readBytes_of_contentAt? {c : Content} (h : s.contentAt? path = some c)
    : s.readBytes path =
        if path.toList.contains '\x00' then .error .nullByte else c.bytes path := by
  unfold contentAt? at h
  unfold readBytes
  cases hplace : s.locate path
  all_goals
    rw [hplace] at h
    cases h
  . rfl
  . rfl

theorem readBytes_congr (h : s.locate path = s'.locate path) : s.readBytes path = s'.readBytes path := by
  unfold readBytes
  rw [h]

theorem readText_congr (h : s.readBytes path = s'.readBytes path) : s.readText path = s'.readText path := by
  unfold readText
  rw [h]

end Store

end Files

namespace Lint.Config

open Files

variable {formats : Formats} {files files' : Store} {path folder : Option String}

/-! ### One file -/

theorem ofFile_congr {place : Path} (h : files.readBytes place.toString = files'.readBytes place.toString)
    : ofFile formats files place = ofFile formats files' place := by
  unfold ofFile ofYamlFile
  rw [Store.readText_congr h, h]

theorem ofProjectFile?_congr {place : Path} (h : files.readBytes place.toString = files'.readBytes place.toString)
    : ofProjectFile? files place = ofProjectFile? files' place := by
  unfold ofProjectFile?
  rw [h]

/--
The fields of a project file say nothing about audits.
-/
inductive Silent (fields : Table Value) : Prop where
  | noTools (h : fields.get? "tool" = none)
  | noTable {tools : Table Value} (h : fields.get? "tool" = some (.object tools)) (hown : tools.get? "analyzer" = none)
  | emptyTable {tools : Table Value} (h : fields.get? "tool" = some (.object tools))
      (hown : tools.get? "analyzer" = some (.object []))

theorem ofProjectFile?_silent {place : Path} {bytes : List Nat} {text : List Char} {fields : Table Value}
    (hbytes : files.readBytes place.toString = .ok bytes) (htext : Text.decode bytes = .ok text)
    (hfields : Toml.read text = .ok fields) (h : Silent fields) : ofProjectFile? files place = .ok none := by
  unfold ofProjectFile?
  simp only [hbytes, orFileFault, bind, Except.bind, htext, hfields]
  cases h with
  | noTools h =>
    rw [h]
    rfl
  | noTable h hown =>
    rw [h]
    simp only [Option.getD_some, Value.fieldsFor, orFault]
    rw [hown]
    rfl
  | emptyTable h hown =>
    rw [h]
    simp only [Option.getD_some, Value.fieldsFor, orFault]
    rw [hown]
    rfl

/-! ### The search -/

/--
The names under which a configuration is looked for, the first that is there counts.
-/
def candidates : List String :=
  fileNames ++ [projectFileName]

/--
The first of the candidates that is there, and what it is.
-/
structure Leads (files : Store) (place : Path) (name : String) (c : Content) : Prop where
  content : files.contentAt? (place.child name).toString = some c
  first : ∃ earlier later, candidates = earlier ++ name :: later ∧
    ∀ other ∈ earlier, files.contentAt? (place.child other).toString = none

theorem find?_eq_none {place : Path} (h : ∀ name ∈ fileNames, files.contentAt? (place.child name).toString = none)
    : fileNames.find? (fun name => files.exists? (place.child name).toString) = none := by
  rw [List.find?_eq_none]
  intro name hname
  rw [Store.exists?_eq, h name hname]
  simp

theorem search_of_project {place : Path}
    (h : ∀ name ∈ fileNames, files.contentAt? (place.child name).toString = none)
    : search formats files place =
        if formats.knowsToml && (files.contentAt? (place.child projectFileName).toString).isSome then
          (ofProjectFile? files (place.child projectFileName)).map (·.getD standard)
        else .ok standard := by
  unfold search
  rw [find?_eq_none h]
  dsimp only
  rw [Store.exists?_eq]
  split
  . cases ofProjectFile? files (place.child projectFileName) with
    | error f => rfl
    | ok found => rfl
  . rfl

theorem Leads.search_eq {place : Path} {name : String} {c : Content} (h : Leads files place name c)
    : search formats files place =
        if name ∈ fileNames then ofFile formats files (place.child name)
        else if formats.knowsToml then (ofProjectFile? files (place.child projectFileName)).map (·.getD standard)
        else .ok standard := by
  rcases h.first with ⟨earlier, later, hsplit, hearlier⟩
  rcases List.eq_nil_or_concat' later with rfl | ⟨later, last, rfl⟩
  . -- The project file comes last.
    rcases List.append_inj' hsplit rfl with ⟨hnames, hlast⟩
    cases hlast
    have hproject : projectFileName ∉ fileNames := by decide
    rw [search_of_project (hnames ▸ hearlier), h.content, if_neg hproject, Option.isSome_some, Bool.and_true]
  . rw [← List.cons_append, ← List.append_assoc] at hsplit
    rcases List.append_inj' hsplit rfl with ⟨hnames, _⟩
    have hfound : fileNames.find? (fun name => files.exists? (place.child name).toString) = some name := by
      rw [List.find?_eq_some_iff_append]
      refine ⟨?_, earlier, later, hnames, ?_⟩
      . rw [Store.exists?_eq, h.content]
        rfl
      . intro other hother
        rw [Store.exists?_eq, hearlier other hother]
        rfl
    have hmem : name ∈ fileNames := by
      rw [hnames]
      exact List.mem_append_right _ List.mem_cons_self
    unfold search
    rw [hfound, if_pos hmem]

theorem load_of_search (hpath : path.getD "" = "") (formats : Formats) (files : Store) (folder : Option String)
    : load formats files path folder = search formats files (searchFolder files folder) := by
  cases path with
  | none => rfl
  | some path =>
    rw [Option.getD_some] at hpath
    rw [hpath]
    rfl

theorem load_of_path {path : String} (hpath : path ≠ "") (formats : Formats) (files : Store) (folder : Option String)
    : load formats files (some path) folder = ofFile formats files (Path.ofString path) := by
  unfold load
  rw [Option.filter_some_pos (by simpa using hpath)]

/-! ### Two stores -/

theorem Leads.search_congr {place : Path} {name : String} {c : Content} (h : Leads files place name c)
    (h' : Leads files' place name c) : search formats files place = search formats files' place := by
  have hbytes : files.readBytes (place.child name).toString = files'.readBytes (place.child name).toString := by
    rw [Store.readBytes_of_contentAt? h.content, Store.readBytes_of_contentAt? h'.content]
  rw [h.search_eq, h'.search_eq, ofFile_congr hbytes]
  split
  . rfl
  . next hnot =>
    have hname : name = projectFileName := by
      rcases h.first with ⟨earlier, later, hsplit, _⟩
      have hmem : name ∈ candidates := by
        rw [hsplit]
        exact List.mem_append_right _ List.mem_cons_self
      rcases List.mem_append.mp hmem with hmem | hmem
      . exact absurd hmem hnot
      . exact List.mem_singleton.mp hmem
    rw [hname] at hbytes
    rw [ofProjectFile?_congr hbytes]

theorem search_silent {place : Path} {bytes : List Nat} {text : List Char} {fields : Table Value}
    (hnone : ∀ name ∈ fileNames, files.contentAt? (place.child name).toString = none)
    (hbytes : files.readBytes (place.child projectFileName).toString = .ok bytes)
    (htext : Text.decode bytes = .ok text) (hfields : Toml.read text = .ok fields) (h : Silent fields)
    : search formats files place = .ok standard := by
  rw [search_of_project hnone, ofProjectFile?_silent hbytes htext hfields h]
  split
  . rfl
  . rfl

theorem search_nothing {place : Path}
    (h : ∀ name ∈ candidates, files.contentAt? (place.child name).toString = none)
    : search formats files place = .ok standard := by
  unfold candidates at h
  rw [List.forall_mem_append, List.forall_mem_singleton] at h
  rw [search_of_project h.1, h.2, Option.isSome_none, Bool.and_false]
  rfl

/--
What is loaded without a path depends on the first candidate in the folder and on what that is, and on nothing else in
the store. With a path it depends on where the path leads, and not even on the folder. A project file that says nothing
about audits is as good as none: without another candidate the recommended settings are loaded. All this is so
whichever formats are known and whatever the reader for YAML makes of a file.
-/
theorem load_depends_on_first (formats : Formats)
    : (∀ (files files' : Store) (path folder : Option String) (name : String) (c : Content), path.getD "" = "" →
        searchFolder files folder = searchFolder files' folder →
        Leads files (searchFolder files folder) name c → Leads files' (searchFolder files' folder) name c →
        load formats files path folder = load formats files' path folder) ∧
      (∀ (files files' : Store) (path : String) (folder folder' : Option String), path ≠ "" →
        files.locate (Path.ofString path).toString = files'.locate (Path.ofString path).toString →
        load formats files (some path) folder = load formats files' (some path) folder') ∧
      ∀ (files files' : Store) (path folder : Option String) (bytes : List Nat) (text : List Char)
        (fields : Table Value),
        let place := searchFolder files folder
        let place' := searchFolder files' folder
        path.getD "" = "" →
        (∀ name ∈ fileNames, files.contentAt? (place.child name).toString = none) →
        files.readBytes (place.child projectFileName).toString = .ok bytes → Text.decode bytes = .ok text →
        Toml.read text = .ok fields → Silent fields →
        (∀ name ∈ candidates, files'.contentAt? (place'.child name).toString = none) →
        load formats files path folder = .ok standard ∧ load formats files' path folder = .ok standard := by
  refine ⟨?_, ?_, ?_⟩
  . intro files files' path folder name c hpath hfolder hleads hleads'
    rw [load_of_search hpath, load_of_search hpath, ← hfolder]
    rw [← hfolder] at hleads'
    exact hleads.search_congr hleads'
  . intro files files' path folder folder' hpath hplace
    rw [load_of_path hpath, load_of_path hpath]
    exact ofFile_congr (Store.readBytes_congr hplace)
  . intro files files' path folder bytes text fields place place' hpath hnone hbytes htext hfields hsilent hnone'
    rw [load_of_search hpath, load_of_search hpath]
    exact ⟨search_silent hnone hbytes htext hfields hsilent, search_nothing hnone'⟩

/--
The text of a configuration file.
-/
def strictText : List Char := "\x7b\"extends\": \"strict\"\x7d".toList

/--
The text of a project file with a table for another tool.
-/
def projectText : List Char := "[tool.black]\n".toList

-- A folder with a configuration file, alone and beside a project file that is not TOML.
def tidyFiles : Store where
  entries :=
    [(["home"], .folder), (["home", "cfg"], .folder),
      (["home", "cfg", "analyzer.config.json"], .file (strictText.map Char.toNat))]
  here := ["home"]

def messyFiles : Store where
  entries := tidyFiles.entries ++ [(["home", "cfg", "pyproject.toml"], .file [91, 91])]
  here := ["home"]

-- A file in YAML, and below it one that is not JSON.
def yamlFiles : Store where
  entries := [(["etc"], .folder), (["etc", ".analyzerrc.yml"], .file [120]), (["home"], .folder)]
  here := ["home"]

def brokenFiles : Store where
  entries := yamlFiles.entries ++ [(["etc", "analyzer.config.json"], .file [91])]

/--
A reader that takes every file for the same object.
-/
def strictReader : YamlReader where
  read _ _ := .ok (.object [("extends", .text "strict")])
  wellFormed h := by
    cases h
    exact Value.WellFormed.empty.put "extends" (.text "strict")

def projectFiles : Store where
  entries := [(["pyproject.toml"], .file (projectText.map Char.toNat))]

theorem load_depends_on_first_messyFiles
    : (Leads tidyFiles (Path.ofString "cfg") "analyzer.config.json" (.file (strictText.map Char.toNat)) ∧
        Leads messyFiles (Path.ofString "cfg") "analyzer.config.json" (.file (strictText.map Char.toNat)) ∧
        load {} tidyFiles none (some "cfg") = load {} messyFiles none (some "cfg") ∧
        (load {} messyFiles none (some "cfg")).isOk = true) ∧
      (Leads yamlFiles (Path.ofString "/etc") ".analyzerrc.yml" (.file [120]) ∧
        Leads brokenFiles (Path.ofString "/etc") ".analyzerrc.yml" (.file [120]) ∧
        load { yaml := some strictReader } yamlFiles none (some "/etc") =
          load { yaml := some strictReader } brokenFiles none (some "/etc") ∧
        (load { yaml := some strictReader } brokenFiles none (some "/etc")).isOk = true) ∧
      load {} tidyFiles (some "/home/cfg/./analyzer.config.json") none =
        load {} messyFiles (some "/home/cfg/./analyzer.config.json") (some "cfg") ∧
      load {} projectFiles (some "") none = .ok standard ∧ load {} yamlFiles (some "") none = .ok standard := by
  have hearlier : candidates =
      [".analyzerrc.json", ".analyzerrc.yaml", ".analyzerrc.yml"] ++ "analyzer.config.json" :: ["pyproject.toml"] := rfl
  have hyml : candidates =
      [".analyzerrc.json", ".analyzerrc.yaml"] ++ ".analyzerrc.yml" :: ["analyzer.config.json", "pyproject.toml"] := rfl
  have htidy : Leads tidyFiles (Path.ofString "cfg") "analyzer.config.json" (.file (strictText.map Char.toNat)) :=
    ⟨by decide +kernel, _, _, hearlier, by decide +kernel⟩
  have hmessy : Leads messyFiles (Path.ofString "cfg") "analyzer.config.json" (.file (strictText.map Char.toNat)) :=
    ⟨by decide +kernel, _, _, hearlier, by decide +kernel⟩
  have hyaml : Leads yamlFiles (Path.ofString "/etc") ".analyzerrc.yml" (.file [120]) :=
    ⟨by decide +kernel, _, _, hyml, by decide +kernel⟩
  have hbroken : Leads brokenFiles (Path.ofString "/etc") ".analyzerrc.yml" (.file [120]) :=
    ⟨by decide +kernel, _, _, hyml, by decide +kernel⟩
  have hproject : Silent [("tool", .object [("black", .object [])])] := .noTable rfl rfl
  rcases load_depends_on_first {} with ⟨hfolder, hpath, hsilent⟩
  refine ⟨⟨htidy, hmessy, ?_, by decide +kernel⟩, ⟨hyaml, hbroken, ?_, by decide +kernel⟩, ?_, ?_⟩
  . exact hfolder _ _ none (some "cfg") _ _ rfl rfl htidy hmessy
  . exact (load_depends_on_first { yaml := some strictReader }).1 _ _ none (some "/etc") _ _ rfl rfl hyaml hbroken
  . exact hpath _ _ _ none (some "cfg") (by decide) rfl
  . exact hsilent projectFiles yamlFiles (some "") none (projectText.map Char.toNat) projectText _ rfl
      (by decide +kernel) (by decide +kernel) (by decide +kernel) rfl hproject (by decide +kernel)

end Lint.Config

end CodeAudit
