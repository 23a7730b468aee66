import CodeAudit.Script.Outline
import Mathlib.Data.List.Forall2

/-!
This module contains the nodes of a script that define something: which nodes these are, which nodes below
them give the names, and that the entries of an outline come from them one by one.
-/

namespace CodeAudit.Script

/--
The node that names what a node defines.
-/
def nameNode? (t : Tree) : Option Tree :=
  match t.kind with
  | "function_declaration" => t.childOfKind? ["identifier"]
  | "method_definition" => t.childOfKind? ["property_identifier", "identifier", "string"]
  | "class_declaration" => t.childOfKind? ["identifier", "type_identifier"]
  | "variable_declarator" => t.child? "name"
  | _ => none

/--
The node that names a parameter.
-/
def paramNode? (t : Tree) : Option Tree :=
  match t.kind with
  | "identifier" => some t
  | "assignment_pattern" => (t.child? "left").filter (·.kind == "identifier")
  | "required_parameter" => t.childOfKind? ["identifier"]
  | _ => none

/--
The nodes that name the parameters of a function or a method.
-/
def paramNodes (t : Tree) : List Tree :=
  match t.kind with
  | "function_declaration" => ((t.child? "parameters").elim [] Tree.children).filterMap paramNode?
  | "method_definition" => ((t.child? "parameters").elim [] Tree.children).filterMap paramNode?
  | _ => []

/--
The nodes of a tree that define something, each before those below it.
-/
def definitions (t : Tree) : List Tree :=
  t.preorder.filter fun node => (nameNode? node).isSome

/--
The names in an entry are cut out of the text where the nodes are that name what a node defines.
-/
def TakesNames (code : List Char) (node : Tree) (e : Entry) : Prop :=
  ∃ n, nameNode? node = some n ∧ e.name = nodeText code n ∧
    e.params = (paramNodes node).map (nodeText code)

/-! ### One entry -/

theorem paramName?_eq (code : List Char) (t : Tree)
    : paramName? code t = (paramNode? t).map (nodeText code) := by
  unfold paramName? paramNode?
  generalize t.kind = kind
  split
  . rfl
  . change _ = ((t.child? "left").filter (·.kind == "identifier")).map (nodeText code)
    cases t.child? "left" with
    | none => rfl
    | some left =>
      rw [Option.filter_some]
      dsimp only
      split
      . rfl
      . rfl
  . rfl
  . simp

theorem paramNames_eq (code : List Char) (t : Tree)
    : paramNames code t =
        (((t.child? "parameters").elim [] Tree.children).filterMap paramNode?).map (nodeText code) := by
  unfold paramNames
  rw [List.map_filterMap]
  simp only [← paramName?_eq]
  cases t.child? "parameters" <;> rfl

theorem entryOf?_names (code : List Char) (t : Tree)
    : (entryOf? code t).map (fun e => (e.name, e.params)) =
        (nameNode? t).map fun n => (nodeText code n, (paramNodes t).map (nodeText code)) := by
  unfold entryOf? nameNode? paramNodes functionEntry? classEntry? variableEntry?
  generalize t.kind = kind
  split
  . simp only [Option.map_map, Function.comp_def, paramNames_eq]
  . simp only [Option.map_map, Function.comp_def, paramNames_eq]
  . simp only [Option.map_map, Function.comp_def]
    rfl
  . simp only [Option.map_map, Function.comp_def]
    rfl
  . simp

theorem isSome_entry_eq (code : List Char) (t : Tree)
    : (entryOf? code t).isSome = (nameNode? t).isSome := by
  have h := congrArg Option.isSome (entryOf?_names code t)
  simpa using h

/-! ### All entries -/

mutual

theorem collect_eq (code : List Char) (found : List Entry)
    : (t : Tree) → collect code found t = found ++ t.preorder.filterMap fun node => entryOf? code node
  | .node kind start stop firstRow lastRow field children => by
    unfold collect Tree.preorder
    rw [collectAll_eq, List.filterMap_cons, List.append_assoc]
    cases entryOf? code (.node kind start stop firstRow lastRow field children) <;> rfl

theorem collectAll_eq (code : List Char) (found : List Entry)
    : (ts : List Tree) →
        collectAll code found ts = found ++ (Tree.preorderAll ts).filterMap fun node => entryOf? code node
  | [] => by
    unfold collectAll Tree.preorderAll
    simp
  | t :: rest => by
    unfold collectAll Tree.preorderAll
    rw [collectAll_eq code _ rest, collect_eq code found t]
    rw [List.filterMap_append, List.append_assoc]

end

theorem entries_eq (code : List Char) (t : Tree)
    : entries code t = t.preorder.filterMap fun node => entryOf? code node :=
  collect_eq code [] t

theorem forall₂_filterMap {α β : Type} (f : α → Option β) (as : List α)
    : List.Forall₂ (fun a b => f a = some b) (as.filter fun a => (f a).isSome) (as.filterMap f) := by
  induction as with
  | nil => exact .nil
  | cons a as ih =>
    rw [List.filter_cons, List.filterMap_cons]
    cases ha : f a with
    | none => exact ih
    | some b => exact .cons ha ih

theorem forall₂_entries (code : List Char) (nodes : List Tree)
    : List.Forall₂ (TakesNames code) (nodes.filter fun node => (nameNode? node).isSome)
        (nodes.filterMap fun node => entryOf? code node) := by
  simp only [← isSome_entry_eq code]
  apply (forall₂_filterMap (fun node => entryOf? code node) nodes).imp
  intro node e hentry
  have hnames := entryOf?_names code node
  rw [hentry, Option.map_some] at hnames
  rcases Option.map_eq_some_iff.mp hnames.symm with ⟨n, hn, heq⟩
  exact ⟨n, hn, (congrArg Prod.fst heq).symm, (congrArg Prod.snd heq).symm⟩

/--
The entries of a tree come from the nodes that define something, one from each and in their order.
-/
theorem entries_of_definitions (code : List Char) (t : Tree)
    : List.Forall₂ (TakesNames code) (definitions t) (entries code t) := by
  rw [entries_eq]
  exact forall₂_entries code t.preorder

end CodeAudit.Script
