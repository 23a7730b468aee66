import CodeAudit.Proofs.Definition
import CodeAudit.Proofs.Place
import CodeAudit.Proofs.Table

/-!
This module contains what is listed of a script: an entry for each node of its tree that defines something, in
the order of the nodes, and for a function the number of nodes in it that divide the flow of control. Functions
that are nested side by side share the number of the function around them.
-/

namespace CodeAudit.Script

/-! ### Complexity -/

mutual

theorem branches_eq_countP
    : (t : Tree) → branches t = t.preorder.countP fun node => branchKinds.contains node.kind
  | .node kind start stop firstRow lastRow field children => by
    unfold branches Tree.preorder
    rw [List.countP_cons, branchesAll_eq_countP children, Nat.add_comm]
    rfl

theorem branchesAll_eq_countP
    : (ts : List Tree) → branchesAll ts = (Tree.preorderAll ts).countP fun node => branchKinds.contains node.kind
  | [] => rfl
  | t :: rest => by
    unfold branchesAll Tree.preorderAll
    rw [List.countP_append, branches_eq_countP t, branchesAll_eq_countP rest]

end

theorem branchesAll_eq_sum (ts : List Tree) : branchesAll ts = (ts.map branches).sum := by
  induction ts with
  | nil => rfl
  | cons t rest ih => rw [branchesAll, ih, List.map_cons, List.sum_cons]

theorem sum_children_le (t : Tree) : (t.children.map branches).sum ≤ branches t := by
  rcases t with ⟨kind, start, stop, firstRow, lastRow, field, children⟩
  rw [branches, branchesAll_eq_sum]
  exact Nat.le_add_left _ _

/-! ### Entries -/

/--
The kinds of nodes that define something, with what they define.
-/
def definingKinds : Table EntryKind :=
  [("function_declaration", .function), ("method_definition", .method), ("class_declaration", .class_),
    ("variable_declarator", .variable_)]

/--
What is listed for a node that defines something of a kind under the name at another node. The lines are those
from the name to the end, of the name itself for a variable, and only functions and methods have a complexity.
-/
def definedEntry (code : List Char) (node : Tree) (kind : EntryKind) (name : Tree) : Entry :=
  { kind
    name := nodeText code name
    firstLine := name.firstRow + 1
    lastLine := (if kind = .variable_ then name else node).lastRow + 1
    complexity := if kind = .function ∨ kind = .method then complexity node else 0
    params := (paramNodes node).map (nodeText code) }

/--
What is listed for a node, if it is of a kind that defines something and has a node below it for the name.
-/
def listed? (code : List Char) (node : Tree) : Option Entry :=
  (definingKinds.get? node.kind).bind fun kind => (nameNode? node).map (definedEntry code node kind)

theorem entryOf?_eq_listed? (code : List Char) (node : Tree) : entryOf? code node = listed? code node := by
  rcases node with ⟨kind, start, stop, firstRow, lastRow, field, children⟩
  unfold entryOf?
  dsimp only [Tree.kind]
  split
  . unfold functionEntry?
    simp only [paramNames_eq]
    rfl
  . unfold functionEntry?
    simp only [paramNames_eq]
    rfl
  . rfl
  . rfl
  . next hfunction hmethod hclass hvariable =>
    have hnone : definingKinds.get? kind = none := by
      rw [Table.get?_eq_none_iff]
      simpa [definingKinds, Table.names] using ⟨hfunction, hmethod, hclass, hvariable⟩
    unfold listed?
    dsimp only [Tree.kind]
    rw [hnone]
    rfl

/--
What is listed of a tree is what is listed for its nodes, each node before those below it, and it stands behind
what was listed before. A complexity is one more than the number of nodes in the tree that divide the flow of
control. So functions and methods inside another one, none of them inside another of these, add up to no more
than that one, if the one that each complexity starts from is left out.
-/
theorem collect_lists_preorder (code : List Char) (found : List Entry) (t : Tree)
    : collect code found t = found ++ t.preorder.filterMap (listed? code) ∧
      (∀ node, complexity node = 1 + node.preorder.countP fun below => below.kind ∈
        ["if_statement", "for_statement", "while_statement", "do_statement", "switch_statement", "catch_clause",
          "conditional_expression"]) ∧
      ∀ (f : Tree) (gs : List (List Nat × Tree)),
        (∀ g ∈ gs, nodeAt? Tree.children g.1 f = some g.2) → gs.Pairwise (fun g g' => Apart g.1 g'.1) →
        (gs.map fun g => (complexity g.2 : Int) - 1).sum ≤ (complexity f : Int) - 1 := by
  refine ⟨?_, ?_, ?_⟩
  . rw [collect_eq]
    simp only [entryOf?_eq_listed?]
  . intro node
    rw [complexity, branches_eq_countP]
    simp only [List.contains_eq_mem]
    rfl
  . intro f gs hgs hapart
    exact sum_sub_one_le_of_apart sum_children_le hgs hapart

/--
A node of the given kind with nodes below it.
-/
def plainNode (kind : String) (children : List Tree) : Tree :=
  .node kind 0 1 0 0 none children

/--
A function or a method with a node that divides the flow of control.
-/
def forkedNode (kind nameKind branchKind : String) : Tree :=
  plainNode kind [plainNode nameKind [], plainNode branchKind []]

-- A function around a method of a class and, under a condition, another function.
def nestedTree : Tree :=
  plainNode "function_declaration"
    [plainNode "identifier" [],
      plainNode "class_declaration" [forkedNode "method_definition" "string" "for_statement"],
      plainNode "if_statement" [forkedNode "function_declaration" "identifier" "catch_clause"]]

def nestedFamily : List (List Nat × Tree) :=
  [([1, 0], forkedNode "method_definition" "string" "for_statement"),
    ([2, 0], forkedNode "function_declaration" "identifier" "catch_clause")]

theorem collect_lists_preorder_nestedTree
    : (∀ g ∈ nestedFamily, nodeAt? Tree.children g.1 nestedTree = some g.2) ∧
      nestedFamily.Pairwise (fun g g' => Apart g.1 g'.1) ∧
      (nestedFamily.map fun g => (complexity g.2 : Int) - 1).sum ≤ (complexity nestedTree : Int) - 1 := by
  have hplaces : ∀ g ∈ nestedFamily, nodeAt? Tree.children g.1 nestedTree = some g.2 := by
    simp only [nestedFamily, List.forall_mem_cons]
    exact ⟨rfl, rfl, List.forall_mem_nil _⟩
  have hapart : nestedFamily.Pairwise fun g g' => Apart g.1 g'.1 := by
    decide
  exact ⟨hplaces, hapart, (collect_lists_preorder [] [] nestedTree).2.2 nestedTree nestedFamily hplaces hapart⟩

end CodeAudit.Script
