import CodeAudit.Proofs.Table
import CodeAudit.Syntax.Survey
import Mathlib.Data.List.Forall2

/-!
This module contains what a survey lists, told from the syntax tree alone: the definitions and imports
among its nodes, each node before those below it, and for each definition the class around it.
-/

namespace CodeAudit.Syntax

/-! ### Nodes in order -/

/--
A node at its place in a tree: the nodes above it, from the nearest on, and the node.
-/
structure Occurrence where
  above : List Node
  node : Node

namespace Node

theorem size_le_sizes {m : Node} {ns : List Node} (h : m ∈ ns) : m.size ≤ sizes ns := by
  induction ns with
  | nil => cases h
  | cons n ns ih =>
    rw [sizes_cons]
    cases List.mem_cons.mp h with
    | inl heq =>
      rw [heq]
      omega
    | inr hmem =>
      have := ih hmem
      omega

theorem size_lt_of_mem_children {n m : Node} (h : m ∈ n.children) : m.size < n.size := by
  have := size_le_sizes h
  rw [size_eq n]
  omega

/--
A node at its place and all nodes below it, each before those below it and those of one node in the
order in which it holds them.
-/
def preorder (above : List Node) (n : Node) : List Occurrence :=
  ⟨above, n⟩ :: n.children.attach.flatMap fun child => preorder (n :: above) child.1
termination_by n.size
decreasing_by exact size_lt_of_mem_children child.2

/--
Several nodes at one place and all nodes below them.
-/
def preorders (above : List Node) (ns : List Node) : List Occurrence :=
  ns.flatMap (preorder above)

theorem preorder_eq (above : List Node) (n : Node)
    : preorder above n = ⟨above, n⟩ :: preorders (n :: above) n.children := by
  rw [preorder, preorders, List.flatMap_subtype]
  . rw [List.unattach_attach]
  . intro child hchild
    rfl

theorem preorders_cons (above : List Node) (n : Node) (ns : List Node)
    : preorders above (n :: ns) = preorder above n ++ preorders above ns := rfl

theorem preorders_append (above : List Node) (ms ns : List Node)
    : preorders above (ms ++ ns) = preorders above ms ++ preorders above ns := by
  unfold preorders
  exact List.flatMap_append

/--
The name of the class that a node defines, if it does.
-/
def className? : Node → Option String
  | .stmt (.classDef head _) => some head.name
  | _ => none

end Node

namespace Occurrence

/--
Whether a function or a class is defined here.
-/
def isDefinition (o : Occurrence) : Bool :=
  match o.node with
  | .stmt (.functionDef _ _) => true
  | .stmt (.classDef _ _) => true
  | _ => false

/--
What is imported here, with the module before each name that comes from one.
-/
def imports (o : Occurrence) : List String :=
  match o.node with
  | .stmt (.importNames names) => names
  | .stmt (.importFrom origin names) =>
    names.map fun name => if origin = "" then name else origin ++ "." ++ name
  | _ => []

/--
The name of the nearest class around.
-/
def owner? (o : Occurrence) : Option String :=
  o.above.findSome? Node.className?

/--
An entry that tells of the definition here. A function is a method exactly if there is a class above it,
and the entry names the nearest.
-/
def Describes (o : Occurrence) (e : Entry) : Prop :=
  match o.node with
  | .stmt (.functionDef head _) =>
    e.name = head.name ∧ e.firstLine = head.span.first ∧ e.lastLine = head.span.last ∧
      (e.kind = .method ∨ e.kind = .function) ∧
      (e.kind = .method ↔ ∃ n ∈ o.above, n.className?.isSome) ∧
      e.details.get? "class" = some (match o.owner? with | some name => .text name | none => .null) ∧
      e.details.get? "is_async" = some (.bool head.isAsync)
  | .stmt (.classDef head _) =>
    e.name = head.name ∧ e.firstLine = head.span.first ∧ e.lastLine = head.span.last ∧
      e.kind = .class_
  | _ => False

/--
The entry of the definition here, if there is one.
-/
def entry? (addresses : Addresses) (o : Occurrence) : Option Entry :=
  match o.node with
  | .stmt (.functionDef head body) => some (Survey.functionEntry addresses o.owner? head body)
  | .stmt (.classDef head body) => some (Survey.classEntry addresses head body)
  | _ => none

end Occurrence

/-! ### The survey of nodes in order -/

namespace Survey

/--
The survey with the definitions and imports of occurrences added to it.
-/
def extend (v : Survey) (os : List Occurrence) : Survey :=
  { v with
    entries := v.entries ++ os.filterMap (Occurrence.entry? v.addresses)
    imports := v.imports ++ os.flatMap Occurrence.imports }

theorem extend_nil (v : Survey) : v.extend [] = v := by
  simp [extend]

theorem extend_append (v : Survey) (os ps : List Occurrence)
    : v.extend (os ++ ps) = (v.extend os).extend ps := by
  simp [extend]

theorem extend_cons (v : Survey) (o : Occurrence) (os : List Occurrence)
    : v.extend (o :: os) = (v.extend [o]).extend os :=
  v.extend_append [o] os

theorem extend_eq_self {v : Survey} {os : List Occurrence}
    (hentry : ∀ o ∈ os, o.entry? v.addresses = none) (himports : ∀ o ∈ os, o.imports = []) : v.extend os = v := by
  unfold extend
  rw [List.filterMap_eq_nil_iff.mpr hentry, List.flatMap_eq_nil_iff.mpr himports]
  simp

theorem extend_nothing {v : Survey} {o : Occurrence} (hentry : o.entry? v.addresses = none)
    (himports : o.imports = []) : v.extend [o] = v := by
  apply extend_eq_self
  . simpa using hentry
  . simpa using himports

theorem isExpr_of_mem_children {e : Expr} {m : Node} (h : m ∈ (Node.expr e).children)
    : ∃ e', m = .expr e' := by
  cases e with
  | «attribute» value attr => exact ⟨value, List.mem_singleton.mp h⟩
  | call function arguments =>
    simp only [Node.children, List.mem_cons, List.mem_map] at h
    rcases h with rfl | ⟨e', _, rfl⟩
    . exact ⟨_, rfl⟩
    . exact ⟨_, rfl⟩
  | boolean operands =>
    rcases List.mem_map.mp h with ⟨e', _, rfl⟩
    exact ⟨_, rfl⟩
  | other form parts =>
    rcases List.mem_map.mp h with ⟨e', _, rfl⟩
    exact ⟨_, rfl⟩
  | _ => simp [Node.children] at h

/--
Below an expression there are expressions only.
-/
theorem isExpr_of_mem_preorder {above : List Node} {n : Node} (hn : ∃ e, n = .expr e) {o : Occurrence}
    (ho : o ∈ n.preorder above) : ∃ e, o.node = .expr e := by
  rw [Node.preorder_eq] at ho
  cases List.mem_cons.mp ho with
  | inl heq => rw [heq]; exact hn
  | inr hmem =>
    rcases List.mem_flatMap.mp hmem with ⟨m, hm, ho'⟩
    have hexpr : ∃ e, m = .expr e := by
      rcases hn with ⟨e, rfl⟩
      exact isExpr_of_mem_children hm
    exact isExpr_of_mem_preorder hexpr ho'
termination_by n.size
decreasing_by exact Node.size_lt_of_mem_children hm

theorem extend_exprs (v : Survey) (above : List Node) (es : List Expr)
    : v.extend (Node.preorders above (es.map .expr)) = v := by
  have hall : ∀ o ∈ Node.preorders above (es.map .expr), ∃ e, o.node = .expr e := by
    intro o ho
    rcases List.mem_flatMap.mp ho with ⟨n, hn, ho'⟩
    rcases List.mem_map.mp hn with ⟨e, _, rfl⟩
    exact isExpr_of_mem_preorder ⟨e, rfl⟩ ho'
  apply extend_eq_self
  . intro o ho
    rcases hall o ho with ⟨e, he⟩
    unfold Occurrence.entry?
    rw [he]
  . intro o ho
    rcases hall o ho with ⟨e, he⟩
    unfold Occurrence.imports
    rw [he]

theorem importedName_eq (origin name : String)
    : importedName origin name = if origin = "" then name else origin ++ "." ++ name := by
  simp [importedName]

mutual

-- The induction goes along the recursion of the survey. What it carries is that the owner is the nearest
-- class above, and that a survey only ever adds to what it has.
theorem visit_eq (v : Survey) (s : Stmt) (above : List Node)
    (howner : above.findSome? Node.className? = v.owner)
    : v.visit s = v.extend (Node.preorder above (.stmt s)) := by
  rw [Node.preorder_eq, extend_cons]
  cases s with
  | functionDef head body =>
    have hentry : v.extend [⟨above, .stmt (.functionDef head body)⟩]
        = v.addEntry (functionEntry v.addresses v.owner head body) := by
      simp [extend, addEntry, Occurrence.entry?, Occurrence.imports, Occurrence.owner?, howner]
    rw [hentry]
    simp only [Node.children, Node.preorders_append, extend_append, extend_exprs]
    rw [visit]
    apply visitAll_eq
    exact howner
  | classDef head body =>
    have hentry : v.extend [⟨above, .stmt (.classDef head body)⟩]
        = v.addEntry (classEntry v.addresses head body) := by
      simp [extend, addEntry, Occurrence.entry?, Occurrence.imports]
    rw [hentry]
    simp only [Node.children, Node.preorders_append, extend_append, extend_exprs]
    rw [visit]
    rw [visitAll_eq _ body (.stmt (.classDef head body) :: above) rfl]
    rfl
  | importNames names =>
    simp [visit, extend, addImports, Occurrence.entry?, Occurrence.imports, Node.children,
      Node.preorders]
  | importFrom origin names =>
    simp [visit, extend, addImports, Occurrence.entry?, Occurrence.imports, Node.children,
      Node.preorders, importedName_eq]
  | expr value =>
    have hexprs := extend_exprs v (.stmt (.expr value) :: above) [value]
    rw [extend_nothing rfl rfl]
    exact hexprs.symm
  | simple kind parts =>
    rw [extend_nothing rfl rfl]
    simp only [Node.children, extend_exprs, visit]
  | compound kind parts blocks =>
    rw [extend_nothing rfl rfl]
    simp only [Node.children, Node.preorders_append, extend_append, extend_exprs]
    rw [visit]
    apply visitBlocks_eq
    exact howner

theorem visitAll_eq (v : Survey) (ss : List Stmt) (above : List Node)
    (howner : above.findSome? Node.className? = v.owner)
    : v.visitAll ss = v.extend (Node.preorders above (ss.map .stmt)) := by
  cases ss with
  | nil => exact (extend_nil v).symm
  | cons s ss =>
    rw [List.map_cons, Node.preorders_cons, extend_append, visitAll]
    rw [visit_eq v s above howner]
    apply visitAll_eq
    exact howner

theorem visitBlocks_eq (v : Survey) (bs : List Block) (above : List Node)
    (howner : above.findSome? Node.className? = v.owner)
    : v.visitBlocks bs = v.extend (Node.preorders above (bs.map .block)) := by
  cases bs with
  | nil => exact (extend_nil v).symm
  | cons b bs =>
    cases b with
    | block role parts body =>
      rw [List.map_cons, Node.preorders_cons, extend_append, visitBlocks]
      rw [Node.preorder_eq, extend_cons, extend_nothing rfl rfl]
      simp only [Node.children, Node.preorders_append, extend_append, extend_exprs]
      rw [visitAll_eq v body (.block (.block role parts body) :: above) howner]
      apply visitBlocks_eq
      exact howner

end

mutual

theorem visit_owner (v : Survey) (s : Stmt) : (v.visit s).owner = v.owner := by
  cases s with
  | functionDef head body =>
    rw [visit, visitAll_owner]
    rfl
  | classDef head body => rfl
  | importNames names => rfl
  | importFrom origin names => rfl
  | expr value => rfl
  | simple kind parts => rfl
  | compound kind parts blocks => rw [visit, visitBlocks_owner]

theorem visitAll_owner (v : Survey) (ss : List Stmt) : (v.visitAll ss).owner = v.owner := by
  cases ss with
  | nil => rfl
  | cons s ss => rw [visitAll, visitAll_owner, visit_owner]

theorem visitBlocks_owner (v : Survey) (bs : List Block) : (v.visitBlocks bs).owner = v.owner := by
  cases bs with
  | nil => rfl
  | cons b bs =>
    cases b with
    | block role parts body => rw [visitBlocks, visitBlocks_owner, visitAll_owner]

end

/-! ### What the entries say -/

variable {addresses : Addresses}

/--
The nearest class has a name that is not empty, like all classes.
-/
theorem any_findSome?_className? (above : List Node)
    : (above.findSome? Node.className?).any (· != "") = true ↔ ∃ n ∈ above, n.className?.isSome := by
  rw [← List.findSome?_isSome_iff]
  cases h : above.findSome? Node.className? with
  | none => simp
  | some name =>
    rcases List.exists_of_findSome?_eq_some h with ⟨n, _, hn⟩
    have hnamed : name ≠ "" := by
      unfold Node.className? at hn
      split at hn
      . next head _ _ =>
        cases hn
        exact head.named
      . cases hn
    simp [hnamed]

theorem entry?_describes {o : Occurrence} {e : Entry} (h : o.entry? addresses = some e) : o.Describes e := by
  unfold Occurrence.entry? at h
  unfold Occurrence.Describes
  split at h
  . next head body _ =>
    cases h
    refine ⟨rfl, rfl, rfl, ?_, ?_, rfl, rfl⟩
    . unfold functionEntry
      dsimp only
      split
      . exact Or.inl rfl
      . exact Or.inr rfl
    . rw [← any_findSome?_className?]
      unfold functionEntry Occurrence.owner?
      dsimp only
      split
      . next howner => simp [howner]
      . next howner => simp [howner]
  . next head body _ =>
    cases h
    exact ⟨rfl, rfl, rfl, rfl⟩
  . cases h

theorem entry?_isSome (o : Occurrence) : (o.entry? addresses).isSome = o.isDefinition := by
  unfold Occurrence.entry? Occurrence.isDefinition
  split <;> rfl

theorem forall₂_describes (os : List Occurrence)
    : List.Forall₂ Occurrence.Describes (os.filter Occurrence.isDefinition)
        (os.filterMap (Occurrence.entry? addresses)) := by
  induction os with
  | nil => exact .nil
  | cons o os ih =>
    have hdef := @entry?_isSome addresses o
    cases hentry : o.entry? addresses with
    | none =>
      rw [hentry] at hdef
      rw [List.filter_cons_of_neg (by simp [← hdef]), List.filterMap_cons_none hentry]
      exact ih
    | some e =>
      rw [hentry] at hdef
      rw [List.filter_cons_of_pos (by simp [← hdef]), List.filterMap_cons_some hentry]
      exact .cons (entry?_describes hentry) ih

/--
The survey of a module lists each definition once, however deep it is nested, and each import, in the
order of the nodes. Whatever is surveyed, the class in whose definition the survey is stays the same.
-/
theorem ofModule_lists_preorder (addresses : Addresses) (body : List Stmt)
    : List.Forall₂ Occurrence.Describes
        ((Node.preorders [] (body.map .stmt)).filter Occurrence.isDefinition) (ofModule addresses body).entries ∧
      (ofModule addresses body).imports = (Node.preorders [] (body.map .stmt)).flatMap Occurrence.imports ∧
      ∀ v : Survey,
        (∀ s, (v.visit s).owner = v.owner) ∧ (∀ ss, (v.visitAll ss).owner = v.owner) ∧
          ∀ bs, (v.visitBlocks bs).owner = v.owner := by
  have hmodule : ofModule addresses body = extend { addresses } (Node.preorders [] (body.map .stmt)) :=
    visitAll_eq { addresses } body [] rfl
  rw [hmodule]
  refine ⟨?_, ?_, ?_⟩
  . exact forall₂_describes _
  . exact List.nil_append _
  . intro v
    exact ⟨visit_owner v, visitAll_owner v, visitBlocks_owner v⟩

end Survey

end CodeAudit.Syntax
