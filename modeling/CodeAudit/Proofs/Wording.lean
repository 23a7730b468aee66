import CodeAudit.Lint.Engine
import CodeAudit.Proofs.Config

/-!
This module contains the ways in which a configuration can word what it says about a rule. Entries that say the
same in other words can stand for each other, whatever they say and wherever they stand.
-/

namespace CodeAudit.Lint

/--
Two entries of one rule that are equal or say the same in other words.
-/
def Reworded (entry entry' : String × Value) : Prop :=
  entry.1 = entry'.1 ∧ (entry.2 = entry'.2 ∨ ∃ s o, Words entry.2 s o ∧ Words entry'.2 s o)

theorem Reworded.ofValue_eq {entry entry' : String × Value} (h : Reworded entry entry')
    : (entry.1, Setting.ofValue entry.2) = (entry'.1, Setting.ofValue entry'.2) := by
  rcases h with ⟨hname, heq | ⟨s, o, hwords, hwords'⟩⟩
  . rw [hname, heq]
  . rw [hname, hwords.ofValue_eq, hwords'.ofValue_eq]

theorem map_ofValue_of_reworded {entries entries' : Table Value} (h : List.Forall₂ Reworded entries entries')
    : entries.map (fun entry => (entry.1, Setting.ofValue entry.2)) =
        entries'.map fun entry => (entry.1, Setting.ofValue entry.2) := by
  induction h with
  | nil => rfl
  | cons hentry _ ih => rw [List.map_cons, List.map_cons, hentry.ofValue_eq, ih]

namespace Config

/--
Of its field for rules a configuration takes only what the entries say.
-/
theorem ofValue_put_rules {object entries entries' : Table Value}
    (hentries : object.get? "rules" = some (.object entries)) (h : List.Forall₂ Reworded entries entries')
    : ofValue (.object object) = ofValue (.object (object.put "rules" (.object entries'))) := by
  have hother : ∀ name, name ≠ "rules" → (object.put "rules" (.object entries')).get? name = object.get? name := by
    intro name hname
    rw [Table.get?_put, if_neg hname]
  have hrules : (object.put "rules" (.object entries')).get? "rules" = some (.object entries') := by
    rw [Table.get?_put, if_pos rfl]
  have hextends : extendsOf (object.put "rules" (.object entries')) = extendsOf object := by
    unfold extendsOf
    rw [hother "extends" (by decide)]
  unfold ofValue
  dsimp only [Value.fieldsFor, orFault, bind, Except.bind]
  rw [hextends, hrules, hentries, hother "ignorePatterns" (by decide), hother "plugins" (by decide)]
  dsimp only [Option.getD_some]
  rw [map_ofValue_of_reworded h]

theorem rules_of_words {object entries : Table Value} {c : Config}
    (hentries : object.get? "rules" = some (.object entries)) (hnodup : entries.names.Nodup)
    (hc : ofValue (.object object) = .ok c) {id : String} {v s o : Value} (hv : entries.get? id = some v)
    (h : Words v s o) : c.rules.get? id = some ⟨s, o⟩ := by
  unfold ofValue at hc
  rcases bind_eq_ok_iff.mp hc with ⟨fields, hfields, hc⟩
  cases hfields
  rcases bind_eq_ok_iff.mp hc with ⟨members, -, hc⟩
  rcases bind_eq_ok_iff.mp hc with ⟨base, -, hc⟩
  rw [hentries] at hc
  cases hc
  dsimp only
  rw [Table.get?_overlay _ (by rw [Table.names_map]; exact hnodup), Table.get?_map, hv, Option.map_some,
    h.ofValue_eq]
  rfl

theorem load_of_source {formats : Formats} {files : Files.Store} {path folder : Option String} {v : Value}
    (h : source? formats files path folder = .ok (some v)) : load formats files path folder = ofValue v := by
  rw [load_eq, h]
  rfl

end Config

namespace Engine

/--
A configuration whose entries are reworded is the same configuration, with each entry as a severity and options,
and an engine that takes it comes to the same rules and the same fault, from whichever files it is loaded.
-/
theorem reworded_same {object entries entries' : Table Value}
    (hentries : object.get? "rules" = some (.object entries)) (h : List.Forall₂ Reworded entries entries')
    : let v := Value.object object
      let v' := Value.object (object.put "rules" (.object entries'))
      Config.ofValue v = Config.ofValue v' ∧
      (∀ c, Config.ofValue v' = .ok c → entries.names.Nodup → ∀ id entry s o,
        entries.get? id = some entry → Words entry s o → c.rules.get? id = some ⟨s, o⟩) ∧
      ∀ e : Engine, e.use (Config.ofValue v) = e.use (Config.ofValue v') ∧
        ∀ formats formats' files files' path path' folder folder',
          Config.source? formats files path folder = .ok (some v) →
          Config.source? formats' files' path' folder' = .ok (some v') →
          e.loadConfig formats files path folder = e.loadConfig formats' files' path' folder' := by
  intro v v'
  have hsame : Config.ofValue v = Config.ofValue v' := Config.ofValue_put_rules hentries h
  refine ⟨hsame, ?_, ?_⟩
  . intro c hc hnodup id entry s o hentry hwords
    rw [← hsame] at hc
    exact Config.rules_of_words hentries hnodup hc hentry hwords
  . intro e
    refine ⟨by rw [hsame], ?_⟩
    intro formats formats' files files' path path' folder folder' hsource hsource'
    unfold loadConfig
    rw [Config.load_of_source hsource, Config.load_of_source hsource', hsame]

-- Entries of all kinds over a preset: one keeps its words, and one has a severity that is none.
def plainEntries : Table Value :=
  [("complexity/max-complexity", .list [.text "error", .object [("max", .int 3)]]),
    ("complexity/max-params", .bool true), ("naming/class-naming", .object []),
    ("structure/max-file-lines", .text "loud")]

def plainObject : Table Value :=
  [("rules", .object plainEntries), ("extends", .text "strict")]

def longEntries : Table Value :=
  [("complexity/max-complexity", .object [("options", .object [("max", .int 3)]), ("severity", .text "error")]),
    ("complexity/max-params", .list [.bool true, .object []]), ("naming/class-naming", .object []),
    ("structure/max-file-lines", .object [("severity", .text "loud")])]

theorem plainEntries_reworded : List.Forall₂ Reworded plainEntries longEntries := by
  refine .cons ⟨rfl, .inr ?_⟩ (.cons ⟨rfl, .inr ?_⟩ (.cons ⟨rfl, .inl rfl⟩ (.cons ⟨rfl, .inr ?_⟩ .nil)))
  . exact ⟨_, _, .listedBoth _ _ [], .namedBoth rfl rfl⟩
  . exact ⟨_, _, .alone (.bool true), .listedBoth _ _ []⟩
  . exact ⟨_, _, .alone (.text "loud"), .named rfl rfl⟩

theorem reworded_same_plainObject
    : plainObject.get? "rules" = some (.object plainEntries) ∧ List.Forall₂ Reworded plainEntries longEntries ∧
      (registerBuiltin {}).use (Config.ofValue (.object plainObject)) =
        (registerBuiltin {}).use
          (Config.ofValue (.object [("rules", .object longEntries), ("extends", .text "strict")])) ∧
      ((registerBuiltin {}).use (Config.ofValue (.object plainObject))).2 = some (.severityName "LOUD") := by
  have hsame := @reworded_same plainObject plainEntries longEntries rfl plainEntries_reworded
  exact ⟨rfl, plainEntries_reworded, (hsame.2.2 (registerBuiltin {})).1, by decide +kernel⟩

end Engine

end CodeAudit.Lint
