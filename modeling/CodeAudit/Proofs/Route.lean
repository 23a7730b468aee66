import CodeAudit.Files.Glob
import Mathlib.Data.List.Induction

/-!
This module contains where paths lead in a store. The text of a path says what the path is, and in a tree
of folders a path to a folder goes on to what stands in the folder.
-/

namespace CodeAudit.Files

deriving instance DecidableEq for Content

/-! ### The text of a path -/

namespace Path

/--
A path that its text says all about: its root is none, one slash or two, and its parts are such that a text can have
them.
-/
structure Proper (p : Path) : Prop where
  root : p.root = "" ∨ p.root = "/" ∨ p.root = "//"
  parts : ∀ part ∈ p.parts, part ≠ "" ∧ part ≠ "." ∧ '/' ∉ part.toList

/--
The characters of the parts of a path, with slashes between them.
-/
def joined (p : Path) : List Char :=
  List.intercalate ['/'] (p.parts.map String.toList)

variable {p q : Path}

theorem notMem_of_mem_splitOn {a : Char} {cs part : List Char} (h : part ∈ cs.splitOn a) : a ∉ part := by
  unfold List.splitOn at h
  induction cs generalizing part with
  | nil =>
    rw [List.splitOnP_nil] at h
    cases List.mem_singleton.mp h
    exact List.not_mem_nil
  | cons c rest ih =>
    rw [List.splitOnP_cons_eq_if_modifyHead] at h
    split at h
    next =>
      rcases List.mem_cons.mp h with rfl | h
      . exact List.not_mem_nil
      . exact ih h
    next hc =>
      cases hrest : rest.splitOnP (· == a) with
      | nil => exact absurd hrest (List.splitOnP_ne_nil _ _)
      | cons first others =>
        rw [hrest] at h ih
        rcases List.mem_cons.mp h with rfl | h
        . rw [List.mem_cons, not_or]
          exact ⟨fun heq => hc (by simp [heq]), ih List.mem_cons_self⟩
        . exact ih (List.mem_cons_of_mem _ h)

theorem splitOn_joined {parts : List String} (h : ∀ part ∈ parts, '/' ∉ part.toList) (hne : parts ≠ [])
    : (List.intercalate ['/'] (parts.map String.toList)).splitOn '/' = parts.map String.toList := by
  apply List.splitOn_intercalate
  . intro part hpart
    rcases List.mem_map.mp hpart with ⟨name, hname, rfl⟩
    exact h name hname
  . simpa using hne

theorem splitOn_joinedParts (hp : p.Proper) (hparts : p.parts ≠ [])
    : p.joined.splitOn '/' = p.parts.map String.toList :=
  splitOn_joined (fun part hpart => (hp.parts part hpart).2.2) hparts

theorem joined_of_nil (hparts : p.parts = []) : p.joined = [] := by
  unfold joined
  rw [hparts]
  rfl

/--
What is left of the text of the parts without empty parts and single dots are the parts.
-/
theorem filter_splitOn_joined (hp : p.Proper)
    : ((p.joined.splitOn '/').map String.ofList).filter (fun part => part != "" && part != ".") = p.parts := by
  by_cases hparts : p.parts = []
  . rw [joined_of_nil hparts, hparts]
    decide
  . rw [splitOn_joinedParts hp hparts, List.map_map, List.filter_eq_self.mpr]
    . simp
    . intro part hpart
      have hmem : part ∈ p.parts := by simpa using hpart
      simp [(hp.parts part hmem).1, (hp.parts part hmem).2.1]

theorem head?_joined (hp : p.Proper) : p.joined.head? ≠ some '/' := by
  by_cases hparts : p.parts = []
  . rw [joined_of_nil hparts]
    simp
  . intro hhead
    have hsplit := splitOn_joinedParts hp hparts
    cases htext : p.joined with
    | nil => simp [htext] at hhead
    | cons c cs =>
      rw [htext, List.head?_cons, Option.some_inj] at hhead
      rw [htext, hhead, List.splitOn_cons_eq_if_modifyHead] at hsplit
      have hempty : [] ∈ p.parts.map String.toList := hsplit ▸ List.mem_cons_self
      rcases List.mem_map.mp hempty with ⟨part, hpart, hnil⟩
      exact (hp.parts part hpart).1 (String.toList_eq_nil_iff.mp hnil)

theorem toList_toString (h : ¬ (p.root = "" ∧ p.parts = [])) : p.toString.toList = p.root.toList ++ p.joined := by
  unfold toString
  rw [if_neg (by simpa using h), String.toList_append, String.toList_intercalate]
  rfl

theorem toString_of_nil (hroot : p.root = "") (hparts : p.parts = []) : p.toString = "." := by
  unfold toString
  rw [hroot, hparts]
  rfl

theorem takeWhile_toList_toString (hp : p.Proper)
    : p.toString.toList.takeWhile (· == '/') = p.root.toList := by
  have hjoined : p.joined.takeWhile (· == '/') = [] := by
    cases htext : p.joined with
    | nil => rfl
    | cons c cs =>
      have hhead := head?_joined hp
      rw [htext] at hhead
      exact List.takeWhile_cons_of_neg (by simpa using hhead)
  by_cases hdot : p.root = "" ∧ p.parts = []
  . rw [toString_of_nil hdot.1 hdot.2, hdot.1]
    decide
  . rw [toList_toString hdot]
    rcases hp.root with hroot | hroot | hroot
    . rw [hroot]
      exact hjoined
    . rw [hroot]
      change '/' :: p.joined.takeWhile (· == '/') = ['/']
      rw [hjoined]
    . rw [hroot]
      change '/' :: '/' :: p.joined.takeWhile (· == '/') = ['/', '/']
      rw [hjoined]

/--
Between the slashes of the text stand the parts, after an empty piece for each slash of the root.
-/
theorem splitOn_toString (hp : p.Proper) (hdot : ¬ (p.root = "" ∧ p.parts = []))
    : (p.toString.toList.splitOn '/').map String.ofList =
        List.replicate p.root.toList.length "" ++ (p.joined.splitOn '/').map String.ofList := by
  rw [toList_toString hdot]
  rcases hp.root with hroot | hroot | hroot
  all_goals
    rw [hroot]
    simp [List.splitOn_cons_eq_if_modifyHead]

theorem ofString_toString (hp : p.Proper) : ofString p.toString = p := by
  have hparts : ((p.toString.toList.splitOn '/').map String.ofList).filter
      (fun part => part != "" && part != ".") = p.parts := by
    by_cases hdot : p.root = "" ∧ p.parts = []
    . rw [toString_of_nil hdot.1 hdot.2, hdot.2]
      decide
    . rw [splitOn_toString hp hdot, List.filter_append, filter_splitOn_joined hp]
      simp
  unfold ofString
  dsimp only
  rw [takeWhile_toList_toString hp, hparts]
  rcases p with ⟨root, parts⟩
  rcases hp.root with rfl | rfl | rfl
  . rfl
  . simp
  . simp

theorem toString_ne_empty (hp : p.Proper) : p.toString ≠ "" := by
  intro hempty
  have hread := ofString_toString hp
  rw [hempty] at hread
  rw [← hread] at hempty
  revert hempty
  decide

theorem head?_toString (hp : p.Proper) : p.toString.toList.head? = some '/' ↔ p.root ≠ "" := by
  have htake := takeWhile_toList_toString hp
  rw [← String.toList_eq_nil_iff.ne, ← htake]
  cases p.toString.toList with
  | nil => simp
  | cons c cs => by_cases hc : c = '/' <;> simp [hc]

theorem toString_inj (hp : p.Proper) (hq : q.Proper) (h : p.toString = q.toString) : p = q := by
  rw [← ofString_toString hp, h, ofString_toString hq]

theorem ofString_root (text : String)
    : (ofString text).root = "" ∨ (ofString text).root = "/" ∨ (ofString text).root = "//" := by
  unfold ofString
  dsimp only
  split
  next => exact Or.inl rfl
  next =>
    split
    next => exact Or.inr (Or.inr rfl)
    next => exact Or.inr (Or.inl rfl)

theorem ofString_proper (text : String) : (ofString text).Proper := by
  refine ⟨ofString_root text, fun part hpart => ?_⟩
  rcases List.mem_filter.mp hpart with ⟨hmem, hkept⟩
  rcases List.mem_map.mp hmem with ⟨cs, hcs, rfl⟩
  rw [Bool.and_eq_true, bne_iff_ne, bne_iff_ne] at hkept
  refine ⟨hkept.1, hkept.2, ?_⟩
  rw [String.toList_ofList]
  exact notMem_of_mem_splitOn hcs

end Path

namespace Store

variable {s : Store} {p : Path}

theorem follow_nil (s : Store) (place : Place) : s.follow place [] = place := by
  cases place <;> rfl

theorem follow_cons (s : Store) (place : Place) (step : String) (steps : List String)
    : s.follow place (step :: steps) = s.follow (s.follow place [step]) steps := by
  have hstays (place : Place) (h : ∀ parts, place ≠ .folder parts) (h' : ∀ bytes, place ≠ .file bytes)
      : s.follow place steps = place := by
    cases steps with
    | nil => exact follow_nil s place
    | cons step rest =>
      cases place with
      | folder parts => exact absurd rfl (h parts)
      | file bytes => exact absurd rfl (h' bytes)
      | missing => rfl
      | notFolder => rfl
  cases place with
  | folder parts =>
    rw [follow, follow]
    split
    next => rw [follow_nil]
    next =>
      split
      next => rw [follow_nil]
      next =>
        cases s.content? (parts ++ [step]) with
        | none => exact (hstays .missing nofun nofun).symm
        | some c =>
          cases c with
          | file bytes => rfl
          | folder => rfl
  | file bytes => exact (hstays .notFolder nofun nofun).symm
  | missing => exact (hstays .missing nofun nofun).symm
  | notFolder => exact (hstays .notFolder nofun nofun).symm

theorem follow_append (s : Store) (place : Place) (steps steps' : List String)
    : s.follow place (steps ++ steps') = s.follow (s.follow place steps) steps' := by
  induction steps generalizing place with
  | nil => rw [List.nil_append, follow_nil]
  | cons step rest ih =>
    rw [List.cons_append, follow_cons, ih, ← follow_cons]

/--
The folder from which a path starts: the top folder if it has a root, else the working folder.
-/
def startOf (s : Store) (p : Path) : List String :=
  if p.root = "" then s.here else []

theorem follow_empty (s : Store) (parts steps : List String)
    : s.follow (.folder parts) ("" :: steps) = s.follow (.folder parts) steps := by
  rw [follow]
  rfl

theorem follow_empties (s : Store) (parts steps : List String) (n : Nat)
    : s.follow (.folder parts) (List.replicate n "" ++ steps) = s.follow (.folder parts) steps := by
  induction n with
  | zero => rfl
  | succ n ih => rw [List.replicate_succ, List.cons_append, follow_empty, ih]

theorem follow_splitOn_joined (s : Store) (hp : p.Proper) (parts : List String)
    : s.follow (.folder parts) ((p.joined.splitOn '/').map String.ofList) = s.follow (.folder parts) p.parts := by
  by_cases hparts : p.parts = []
  . rw [Path.joined_of_nil hparts, hparts]
    exact follow_empty s parts []
  . rw [Path.splitOn_joinedParts hp hparts]
    simp

theorem locate_toString (s : Store) (hp : p.Proper)
    : s.locate p.toString = s.follow (.folder (s.startOf p)) p.parts := by
  unfold locate
  by_cases hdot : p.root = "" ∧ p.parts = []
  . unfold startOf
    rw [Path.toString_of_nil hdot.1 hdot.2, if_pos hdot.1, hdot.2]
    rfl
  . have hstart : (if p.toString.toList.head? == some '/' then [] else s.here) = s.startOf p := by
      unfold startOf
      simp only [beq_iff_eq, Path.head?_toString hp, ne_eq, ite_not]
    rw [if_neg (by simpa using Path.toString_ne_empty hp)]
    dsimp only
    rw [hstart, Path.splitOn_toString hp hdot, follow_empties, follow_splitOn_joined s hp]

/-! ### Trees of folders -/

/--
The names that mean what stands under them.
-/
def IsName (name : String) : Prop :=
  name ≠ "" ∧ name ≠ "." ∧ name ≠ ".." ∧ '/' ∉ name.toList

instance (name : String) : Decidable (IsName name) :=
  inferInstanceAs (Decidable (_ ∧ _))

/--
A store in which everything stands once, under names, and in a folder, and in which the working folder is one.
-/
structure IsTree (s : Store) : Prop where
  distinct : (s.entries.map (·.1)).Nodup
  named : ∀ entry ∈ s.entries, entry.1 ≠ [] ∧ ∀ name ∈ entry.1, IsName name
  rooted : ∀ entry ∈ s.entries, s.content? entry.1.dropLast = some .folder
  here : s.content? s.here = some .folder

theorem content?_eq_some_iff (hs : s.IsTree) {parts : List String} {c : Content} (hparts : parts ≠ [])
    : s.content? parts = some c ↔ (parts, c) ∈ s.entries := by
  unfold content?
  rw [if_neg (by simpa using hparts)]
  constructor
  . intro h
    rcases List.lookup_eq_some_iff.mp h with ⟨before, after, hentries, _⟩
    rw [hentries]
    exact List.mem_append_right _ List.mem_cons_self
  . intro h
    rcases List.append_of_mem h with ⟨before, after, hentries⟩
    refine List.lookup_eq_some_iff.mpr ⟨before, after, hentries, fun entry hentry => ?_⟩
    have hdistinct := hs.distinct
    rw [hentries, List.map_append, List.map_cons, List.nodup_append] at hdistinct
    have hne := hdistinct.2.2 entry.1 (List.mem_map_of_mem hentry) parts List.mem_cons_self
    simpa using Ne.symm hne

theorem IsTree.name (hs : s.IsTree) {parts : List String} {name : String} {c : Content}
    (h : s.content? (parts ++ [name]) = some c) : IsName name := by
  rw [content?_eq_some_iff hs (by simp)] at h
  exact (hs.named _ h).2 name (by simp)

/--
What stands somewhere below has a folder for everything above it.
-/
theorem IsTree.above (hs : s.IsTree) {parts rest : List String} {c : Content}
    (h : s.content? (parts ++ rest) = some c) (hrest : rest ≠ []) : s.content? parts = some .folder := by
  induction rest using List.reverseRecOn generalizing c with
  | nil => exact absurd rfl hrest
  | append_singleton rest name ih =>
    rw [content?_eq_some_iff hs (by simp)] at h
    have hfolder := hs.rooted _ h
    rw [← List.append_assoc, List.dropLast_concat] at hfolder
    by_cases hnil : rest = []
    . rw [hnil, List.append_nil] at hfolder
      exact hfolder
    . exact ih hfolder hnil

theorem IsTree.follow_folder (hs : s.IsTree) {base steps parts : List String}
    (hbase : s.content? base = some .folder) (h : s.follow (.folder base) steps = .folder parts)
    : s.content? parts = some .folder := by
  induction steps generalizing base with
  | nil =>
    cases h
    exact hbase
  | cons step rest ih =>
    unfold follow at h
    split at h
    next => exact ih hbase h
    next =>
      split at h
      next =>
        refine ih ?_ h
        by_cases hnil : base = []
        . rw [hnil]
          rfl
        . rw [← List.dropLast_concat_getLast hnil] at hbase
          exact hs.above hbase (by simp)
      next =>
        split at h
        next => cases rest <;> cases h
        next hfolder => exact ih hfolder h
        next => cases h

theorem IsTree.startOf_folder (hs : s.IsTree) (p : Path) : s.content? (s.startOf p) = some .folder := by
  unfold startOf
  split
  next => exact hs.here
  next => rfl

/--
The path leads to the folder with the given parts.
-/
structure Leads (s : Store) (p : Path) (parts : List String) : Prop where
  proper : p.Proper
  folder : s.folderParts? p = some parts

theorem folderParts?_eq_some_iff (hp : p.Proper) {parts : List String}
    : s.folderParts? p = some parts ↔ s.follow (.folder (s.startOf p)) p.parts = .folder parts := by
  unfold folderParts?
  rw [locate_toString s hp]
  cases s.follow (.folder (s.startOf p)) p.parts with
  | folder found => simp
  | _ => simp

theorem leads_ofString {text : String} {parts : List String}
    (h : s.folderParts? (Path.ofString text) = some parts) : s.Leads (Path.ofString text) parts :=
  ⟨Path.ofString_proper text, h⟩

theorem Leads.content? (hs : s.IsTree) {parts : List String} (h : s.Leads p parts)
    : s.content? parts = some .folder :=
  hs.follow_folder (hs.startOf_folder p) ((folderParts?_eq_some_iff h.proper).mp h.folder)

theorem Leads.child_proper (hs : s.IsTree) {parts : List String} {name : String} {c : Content}
    (h : s.Leads p parts) (hc : s.content? (parts ++ [name]) = some c) : (p.child name).Proper := by
  refine ⟨h.proper.root, fun part hpart => ?_⟩
  rcases List.mem_append.mp hpart with hpart | hpart
  . exact h.proper.parts part hpart
  . cases List.mem_singleton.mp hpart
    have hname := hs.name hc
    exact ⟨hname.1, hname.2.1, hname.2.2.2⟩

/--
From a folder, a path goes on to the folders in it.
-/
theorem Leads.child (hs : s.IsTree) {parts : List String} {name : String} (h : s.Leads p parts)
    (hfolder : s.content? (parts ++ [name]) = some .folder) : s.Leads (p.child name) (parts ++ [name]) := by
  have hproper := h.child_proper hs hfolder
  refine ⟨hproper, ?_⟩
  have hname := hs.name hfolder
  rw [folderParts?_eq_some_iff hproper]
  change s.follow (.folder (s.startOf p)) (p.parts ++ [name]) = .folder (parts ++ [name])
  rw [follow_append, (folderParts?_eq_some_iff h.proper).mp h.folder]
  unfold follow
  simp [hname.1, hname.2.1, hname.2.2.1, hfolder, follow]

end Store

end CodeAudit.Files
