import CodeAudit.Lint.ConfigFile
import CodeAudit.Proofs.WellFormed

/-!
This module contains what a configuration says about a rule, as a function of the object that was
loaded: the entry of the rule decides, and without one the last preset that names the rule.
-/

namespace CodeAudit.Lint

open Files

namespace Config

/-! ### The object that is loaded -/

/--
The value in a configuration file in YAML.
-/
def yamlValue (formats : Formats) (files : Store) (path : Path) : Except Fault Value :=
  match formats.yaml with
  | none => throw .yaml
  | some reader => do
    let bytes ← orFileFault (files.readBytes path.toString)
    match reader.read path.toString bytes with
    | .ok v => return v
    | .error b => throw (.outside b)

/--
The value in a configuration file.
-/
def fileValue (formats : Formats) (files : Store) (path : Path) : Except Fault Value := do
  match path.suffix with
  | ".json" =>
    let text ← orFileFault (files.readText path.toString)
    match Json.read (String.ofList text) with
    | .ok v => return v
    | .error e => throw (.json e)
  | ".yaml" => yamlValue formats files path
  | ".yml" => yamlValue formats files path
  | suffix => throw (.configFormat suffix)

/--
The value in a project file that configures audits, if there is one.
-/
def projectValue? (files : Store) (path : Path) : Except Fault (Option Value) := do
  let bytes ← orFileFault (files.readBytes path.toString)
  match Text.decode bytes with
  | .error e => throw (.file (.undecodable e))
  | .ok text =>
    match Toml.read text with
    | .error e => throw (.toml e)
    | .ok fields =>
      let tools ← orFault (((Table.get? fields "tool").getD (.object [])).fieldsFor "get")
      let own := (tools.get? "analyzer").getD (.object [])
      return if own.isGiven then some own else none

/--
The value from which a configuration is loaded, if one is found.
-/
def source? (formats : Formats) (files : Store) (path folder : Option String) : Except Fault (Option Value) :=
  match path.filter (· != "") with
  | some path => return some (← fileValue formats files (Path.ofString path))
  | none => do
    let folder := searchFolder files folder
    match fileNames.find? fun name => files.exists? (folder.child name).toString with
    | some name => return some (← fileValue formats files (folder.child name))
    | none =>
      let project := folder.child projectFileName
      if formats.knowsToml && files.exists? project.toString then projectValue? files project
      else return none

theorem ofYamlFile_eq (formats : Formats) (files : Store) (path : Path)
    : ofYamlFile formats files path = yamlValue formats files path >>= ofValue := by
  unfold ofYamlFile yamlValue
  cases formats.yaml with
  | none => rfl
  | some reader =>
    dsimp only
    cases orFileFault (files.readBytes path.toString) with
    | error e => rfl
    | ok bytes =>
      dsimp only [bind, Except.bind]
      cases reader.read path.toString bytes <;> rfl

theorem ofFile_eq (formats : Formats) (files : Store) (path : Path)
    : ofFile formats files path = fileValue formats files path >>= ofValue := by
  unfold ofFile
  split
  . next hjson =>
    unfold fileValue
    rw [hjson]
    cases orFileFault (files.readText path.toString) with
    | error e => rfl
    | ok text =>
      dsimp only [bind, Except.bind]
      cases Json.read (String.ofList text) <;> rfl
  . next hyaml =>
    unfold fileValue
    rw [hyaml]
    exact ofYamlFile_eq formats files path
  . next hyml =>
    unfold fileValue
    rw [hyml]
    exact ofYamlFile_eq formats files path
  . next hjson hyaml hyml =>
    unfold fileValue
    split
    . exact absurd ‹_› hjson
    . exact absurd ‹_› hyaml
    . exact absurd ‹_› hyml
    . rfl

theorem ofProjectFile?_eq (files : Store) (path : Path)
    : ofProjectFile? files path =
        projectValue? files path >>= fun found =>
          match found with
          | some v => some <$> ofValue v
          | none => .ok none := by
  unfold ofProjectFile? projectValue?
  cases orFileFault (files.readBytes path.toString) with
  | error e => rfl
  | ok bytes =>
    dsimp only [bind, Except.bind]
    cases Text.decode bytes with
    | error e => rfl
    | ok text =>
      dsimp only
      cases Toml.read text with
      | error e => rfl
      | ok fields =>
        dsimp only
        cases orFault (((Table.get? fields "tool").getD (.object [])).fieldsFor "get") with
        | error e => rfl
        | ok tools =>
          dsimp only
          generalize (tools.get? "analyzer").getD (.object []) = own
          split
          . dsimp only [pure, Except.pure]
            cases ofValue own <;> rfl
          . rfl

theorem load_eq (formats : Formats) (files : Store) (path folder : Option String)
    : load formats files path folder =
        source? formats files path folder >>= fun found =>
          match found with
          | some v => ofValue v
          | none => .ok standard := by
  unfold load source?
  cases path.filter (· != "") with
  | some path =>
    dsimp only
    rw [ofFile_eq]
    cases fileValue formats files (Path.ofString path) <;> rfl
  | none =>
    unfold search
    dsimp only
    generalize searchFolder files folder = place
    cases fileNames.find? fun name => files.exists? (place.child name).toString with
    | some name =>
      dsimp only
      rw [ofFile_eq]
      cases fileValue formats files (place.child name) <;> rfl
    | none =>
      dsimp only
      split
      . rw [ofProjectFile?_eq]
        cases projectValue? files (place.child projectFileName) with
        | error e => rfl
        | ok found =>
          cases found with
          | none => rfl
          | some v =>
            dsimp only [bind, Except.bind]
            cases ofValue v <;> rfl
      . rfl

theorem yamlValue_wellFormed {formats : Formats} {files : Store} {path : Path} {v : Value}
    (h : yamlValue formats files path = .ok v) : v.WellFormed := by
  unfold yamlValue at h
  split at h
  . cases h
  . next reader _ =>
    rcases bind_eq_ok_iff.mp h with ⟨bytes, -, h⟩
    split at h
    . next hread =>
      cases h
      exact reader.wellFormed hread
    . cases h

theorem fileValue_wellFormed {formats : Formats} {files : Store} {path : Path} {v : Value}
    (h : fileValue formats files path = .ok v) : v.WellFormed := by
  unfold fileValue at h
  split at h
  . rcases bind_eq_ok_iff.mp h with ⟨text, -, h⟩
    split at h
    . next hread =>
      cases h
      exact Json.read_wellFormed hread
    . cases h
  . exact yamlValue_wellFormed h
  . exact yamlValue_wellFormed h
  . cases h

theorem projectValue?_wellFormed {files : Store} {path : Path} {v : Value}
    (h : projectValue? files path = .ok (some v)) : v.WellFormed := by
  unfold projectValue? at h
  rcases bind_eq_ok_iff.mp h with ⟨bytes, -, h⟩
  split at h
  . cases h
  . split at h
    . cases h
    . next fields hread =>
      rcases bind_eq_ok_iff.mp h with ⟨tools, htools, h⟩
      have hroot : (Value.object fields).WellFormed := Toml.read_wellFormed hread
      have hfound : ((Table.get? fields "tool").getD (.object [])).WellFormed :=
        hroot.getD "tool" .empty
      rw [Value.fieldsFor_eq_ok (orFault_eq_ok_iff.mp htools)] at hfound
      dsimp only at h
      split at h
      . cases h
        exact hfound.getD "analyzer" .empty
      . cases h

theorem source?_wellFormed {formats : Formats} {files : Store} {path folder : Option String} {v : Value}
    (h : source? formats files path folder = .ok (some v)) : v.WellFormed := by
  unfold source? at h
  split at h
  . rcases bind_eq_ok_iff.mp h with ⟨w, hw, h⟩
    cases h
    exact fileValue_wellFormed hw
  . dsimp only at h
    split at h
    . rcases bind_eq_ok_iff.mp h with ⟨w, hw, h⟩
      cases h
      exact fileValue_wellFormed hw
    . split at h
      . exact projectValue?_wellFormed h
      . cases h

end Config

/-! ### What an entry says -/

/--
A severity that stands alone: a name or a number. The two truth values are numbers too.
-/
inductive StandsAlone : Value → Prop where
  | text (s : String) : StandsAlone (.text s)
  | int (n : Int) : StandsAlone (.int n)
  | bool (b : Bool) : StandsAlone (.bool b)

/--
The ways to word an entry with a severity and options: the severity alone, a list that starts with both or has only
the severity, or an object with a field for each or only one for the severity. Options that are not worded are empty.
-/
inductive Words : Value → Value → Value → Prop where
  | alone {s : Value} (hs : StandsAlone s) : Words s s (.object [])
  | listed (s : Value) : Words (.list [s]) s (.object [])
  | listedBoth (s o : Value) (rest : List Value) : Words (.list (s :: o :: rest)) s o
  | named {s : Value} {fields : Table Value} (hs : fields.get? "severity" = some s)
    (ho : fields.get? "options" = none) : Words (.object fields) s (.object [])
  | namedBoth {s o : Value} {fields : Table Value} (hs : fields.get? "severity" = some s)
    (ho : fields.get? "options" = some o) : Words (.object fields) s o

/--
What an entry says: what it words, and a warning where it words no severity.
-/
inductive Says : Value → Setting → Prop where
  | worded {v s o : Value} (h : Words v s o) : Says v ⟨s, o⟩
  | empty : Says (.list []) ⟨.text "warn", .object []⟩
  | unnamed {fields : Table Value} (hs : fields.get? "severity" = none) (ho : fields.get? "options" = none)
    : Says (.object fields) ⟨.text "warn", .object []⟩
  | optionsOnly {o : Value} {fields : Table Value} (hs : fields.get? "severity" = none)
    (ho : fields.get? "options" = some o) : Says (.object fields) ⟨.text "warn", o⟩
  | null : Says .null ⟨.text "warn", .object []⟩
  | float (x : Float) : Says (.float x) ⟨.text "warn", .object []⟩
  | moment (m : Moment) : Says (.moment m) ⟨.text "warn", .object []⟩

theorem Words.ofValue_eq {v s o : Value} (h : Words v s o) : Setting.ofValue v = ⟨s, o⟩ := by
  cases h with
  | alone hs => cases hs <;> rfl
  | listed => rfl
  | listedBoth => rfl
  | named hs ho =>
    unfold Setting.ofValue
    dsimp only
    rw [hs, ho]
    rfl
  | namedBoth hs ho =>
    unfold Setting.ofValue
    dsimp only
    rw [hs, ho]
    rfl

theorem Says.ofValue_eq {v : Value} {setting : Setting} (h : Says v setting) : Setting.ofValue v = setting := by
  cases h with
  | worded h => exact h.ofValue_eq
  | unnamed hs ho =>
    unfold Setting.ofValue
    dsimp only
    rw [hs, ho]
    rfl
  | optionsOnly hs ho =>
    unfold Setting.ofValue
    dsimp only
    rw [hs, ho]
    rfl
  | _ => rfl

theorem says_ofValue (v : Value) : Says v (Setting.ofValue v) := by
  cases v with
  | null => exact .null
  | bool b => exact .worded (.alone (.bool b))
  | int n => exact .worded (.alone (.int n))
  | float x => exact .float x
  | text s => exact .worded (.alone (.text s))
  | moment m => exact .moment m
  | list vs =>
    match vs with
    | [] => exact .empty
    | [s] => exact .worded (.listed s)
    | s :: o :: rest => exact .worded (.listedBoth s o rest)
  | object fields =>
    unfold Setting.ofValue
    dsimp only
    cases hs : Table.get? fields "severity" with
    | none =>
      cases ho : Table.get? fields "options" with
      | none => exact .unnamed hs ho
      | some o => exact .optionsOnly hs ho
    | some s =>
      cases ho : Table.get? fields "options" with
      | none => exact .worded (.named hs ho)
      | some o => exact .worded (.namedBoth hs ho)

namespace Config

/-! ### What decides about a rule -/

/--
A preset that has a setting for a rule.
-/
def Defines (name id : String) (setting : Setting) : Prop :=
  ∃ rules, presets.get? name = some rules ∧ rules.get? id = some setting

/--
What decides about a rule: what its entry says, without one the last preset that has a setting for the rule, and
without either nothing.
-/
inductive Decides (names : List String) (entries : Table Value) (id : String) : Option Setting → Prop where
  | entry {v : Value} {s : Setting} (hentry : entries.get? id = some v) (hs : Says v s)
    : Decides names entries id (some s)
  | preset {earlier later : List String} {name : String} {s : Setting} (hentry : entries.get? id = none)
    (hnames : names = earlier ++ name :: later) (hs : Defines name id s)
    (hlater : ∀ other ∈ later, ∀ t, ¬ Defines other id t) : Decides names entries id (some s)
  | nothing (hentry : entries.get? id = none) (hnames : ∀ name ∈ names, ∀ t, ¬ Defines name id t)
    : Decides names entries id none

/--
What decides about a rule, as it is looked up.
-/
def deciding (names : List String) (entries : Table Value) (id : String) : Option Setting :=
  match entries.get? id with
  | some entry => some (Setting.ofValue entry)
  | none => names.reverse.findSome? fun name => (presetRules name).get? id

theorem defines_iff {name id : String} {s : Setting} : Defines name id s ↔ (presetRules name).get? id = some s := by
  unfold Defines presetRules
  cases presets.get? name with
  | none =>
    rw [Option.getD_none]
    simp [Table.get?]
  | some rules => simp

theorem not_defines_iff {name id : String}
    : (∀ t, ¬ Defines name id t) ↔ (presetRules name).get? id = none := by
  simp only [defines_iff, Option.eq_none_iff_forall_ne_some]

theorem decides_iff {names : List String} {entries : Table Value} {id : String} {d : Option Setting}
    : Decides names entries id d ↔ deciding names entries id = d := by
  unfold deciding
  constructor
  . intro h
    cases h with
    | entry hentry hs => rw [hentry, ← hs.ofValue_eq]
    | @preset earlier later name s hentry hnames hs hlater =>
      rw [hentry, hnames]
      dsimp only
      rw [List.findSome?_eq_some_iff]
      refine ⟨later.reverse, name, earlier.reverse, by simp, defines_iff.mp hs, fun other hother => ?_⟩
      exact not_defines_iff.mp (hlater other (List.mem_reverse.mp hother))
    | nothing hentry hnames =>
      rw [hentry]
      dsimp only
      rw [List.findSome?_eq_none_iff]
      intro name hname
      exact not_defines_iff.mp (hnames name (List.mem_reverse.mp hname))
  . rintro rfl
    cases hentry : entries.get? id with
    | some v => exact .entry hentry (says_ofValue v)
    | none =>
      dsimp only
      cases hfound : names.reverse.findSome? fun name => (presetRules name).get? id with
      | none =>
        rw [List.findSome?_eq_none_iff] at hfound
        exact .nothing hentry fun name hname => not_defines_iff.mpr (hfound name (List.mem_reverse.mpr hname))
      | some s =>
        rcases List.findSome?_eq_some_iff.mp hfound with ⟨later, name, earlier, hnames, hs, hlater⟩
        have hlast : names = earlier.reverse ++ name :: later.reverse := by
          rw [← List.reverse_reverse names, hnames]
          simp
        refine .preset hentry hlast (defines_iff.mpr hs) fun other hother => ?_
        exact not_defines_iff.mpr (hlater other (List.mem_reverse.mp hother))

/--
The presets that an object extends: none, one that is named by a text, or those of a list.
-/
inductive Extends (object : Table Value) : List String → Prop where
  | missing (h : object.get? "extends" = none) : Extends object []
  | one {name : String} (h : object.get? "extends" = some (.text name)) : Extends object [name]
  | several {names : List String} (h : object.get? "extends" = some (.list (names.map .text)))
    : Extends object names

/--
The entries that an object has for rules.
-/
inductive HasEntries (object : Table Value) : Table Value → Prop where
  | missing (h : object.get? "rules" = none) : HasEntries object []
  | given {entries : Table Value} (h : object.get? "rules" = some (.object entries))
    : HasEntries object entries

theorem presetRules_mem (name : String)
    : presetRules name = [] ∨ (name, presetRules name) ∈ presets := by
  unfold presetRules
  cases h : presets.get? name with
  | none => exact Or.inl rfl
  | some rules => exact Or.inr (Table.mem_of_get? h)

theorem presetRules_nodup (name : String) : (presetRules name).names.Nodup := by
  have hall : ∀ preset ∈ presets, preset.2.names.Nodup := by decide
  cases presetRules_mem name with
  | inl h => rw [h]; exact List.nodup_nil
  | inr h => exact hall _ h

theorem presetRules_wellFormed {name id : String} {setting : Setting}
    (h : (presetRules name).get? id = some setting) : setting.options.WellFormed := by
  have hbounded : ∀ severity max, (bounded severity max).options.WellFormed := by
    intro severity max
    exact Value.WellFormed.empty.put "max" (.int max)
  have hstyled : ∀ severity style, (styled severity style).options.WellFormed := by
    intro severity style
    exact Value.WellFormed.empty.put "style" (.text style)
  have hall : ∀ preset ∈ presets, ∀ rule ∈ preset.2, rule.2.options.WellFormed := by
    simp only [presets, List.forall_mem_cons, List.not_mem_nil, false_implies, implies_true, and_true,
      hbounded, hstyled]
  cases presetRules_mem name with
  | inl hnil =>
    rw [hnil] at h
    cases h
  | inr hmem => exact hall _ hmem _ (Table.mem_of_get? h)

theorem overlayPresets_eq (rules : Table Setting) (names : List String)
    : overlayPresets rules (names.map .text)
        =
      .ok (names.foldl (fun t name => t.overlay (presetRules name)) rules) := by
  induction names generalizing rules with
  | nil => rfl
  | cons name names ih => exact ih (rules.overlay (presetRules name))

theorem get?_foldl_overlay (rules : Table Setting) (names : List String) (id : String)
    : Table.get? (names.foldl (fun t name => t.overlay (presetRules name)) rules) id
        =
      (names.reverse.findSome? fun name => (presetRules name).get? id).or (rules.get? id) := by
  induction names generalizing rules with
  | nil => rfl
  | cons name names ih =>
    rw [List.foldl_cons, ih, Table.get?_overlay _ (presetRules_nodup name)]
    rw [List.reverse_cons, List.findSome?_append, Option.or_assoc]
    simp

theorem members_extendsOf {object : Table Value} {names : List String} (h : Extends object names)
    : (extendsOf object).members = .ok (names.map .text) := by
  unfold extendsOf
  cases h with
  | missing h => rw [h]; rfl
  | one h => rw [h]; rfl
  | several h => rw [h]; rfl

theorem fieldsFor_entries {object entries : Table Value} (h : HasEntries object entries)
    : ((object.get? "rules").getD (.object [])).fieldsFor "items" = .ok entries := by
  cases h with
  | missing h => rw [h]; rfl
  | given h => rw [h]; rfl

theorem wellFormed_entries {object entries : Table Value} (hobject : (Value.object object).WellFormed)
    (h : HasEntries object entries) : (Value.object entries).WellFormed := by
  cases h with
  | missing h => exact .empty
  | given h => exact hobject.of_get? h

/--
A configuration is made of every object with presets and entries, and what it says about a rule is what
decides.
-/
theorem ofValue_object {object entries : Table Value} {names : List String}
    (hobject : (Value.object object).WellFormed) (hnames : Extends object names)
    (hentries : HasEntries object entries)
    : ∃ c, ofValue (.object object) = .ok c ∧ ∀ id, Decides names entries id (c.rules.get? id) := by
  have hnodup : entries.names.Nodup := (wellFormed_entries hobject hentries).nodup_names
  unfold ofValue
  simp only [Value.fieldsFor, orFault, bind, Except.bind]
  rw [members_extendsOf hnames]
  dsimp only
  rw [overlayPresets_eq]
  dsimp only
  have hitems := fieldsFor_entries hentries
  unfold Value.fieldsFor at hitems
  rw [hitems]
  refine ⟨_, rfl, ?_⟩
  intro id
  rw [decides_iff]
  dsimp only
  rw [Table.get?_overlay]
  . rw [Table.get?_map, get?_foldl_overlay]
    unfold deciding
    cases entries.get? id with
    | none => simp
    | some entry => rfl
  . rw [Table.names_map]
    exact hnodup

theorem ofValue_options_wellFormed {v : Value} (h : v.WellFormed)
    : (Setting.ofValue v).options.WellFormed := by
  unfold Setting.ofValue
  split
  . exact .empty
  . exact .empty
  . exact .empty
  . exact .empty
  . exact .empty
  . exact h.of_mem_list (by simp)
  . exact h.getD "options" .empty
  . exact .empty

theorem Decides.options_wellFormed {names : List String} {entries : Table Value} {id : String} {setting : Setting}
    (hentries : (Value.object entries).WellFormed) (h : Decides names entries id (some setting))
    : setting.options.WellFormed := by
  cases h with
  | entry hentry hs =>
    rw [← hs.ofValue_eq]
    exact ofValue_options_wellFormed (hentries.of_get? hentry)
  | preset hentry hnames hs hlater => exact presetRules_wellFormed (defines_iff.mp hs)

end Config

end CodeAudit.Lint
