import CodeAudit.Proofs.Place
import CodeAudit.Syntax.Walk

/-!
This module contains what the complexity of a function is, told by recursion on the syntax: one more than the
sum of what the nodes in it add. The walk in order of depth meets each of these nodes once, so the sum along it
is the same, and definitions that are nested side by side share the sum of the definition around them.
-/

namespace CodeAudit.Syntax

/-! ### Sums over a tree -/

section Sums

variable {M : Type} [AddCommMonoid M]

mutual

/--
The sum of `f` over an expression and all expressions in it.
-/
def Expr.sumOver (f : Node → M) : Expr → M
  | .name id => f (.expr (.name id))
  | .attribute value attr => f (.expr (.attribute value attr)) + value.sumOver f
  | .call function arguments =>
    f (.expr (.call function arguments)) + (function.sumOver f + Expr.sumsOver f arguments)
  | .text value => f (.expr (.text value))
  | .constant => f (.expr .constant)
  | .boolean operands => f (.expr (.boolean operands)) + Expr.sumsOver f operands
  | .other form parts => f (.expr (.other form parts)) + Expr.sumsOver f parts

/--
The sum of `f` over several expressions and all expressions in them.
-/
def Expr.sumsOver (f : Node → M) : List Expr → M
  | [] => 0
  | e :: es => e.sumOver f + Expr.sumsOver f es

end

mutual

/--
The sum of `f` over a statement and all statements, blocks and expressions in it. Those of a definition are its
body, and in its head the types of parameters and results, the defaults, the bases and the decorators.
-/
def Stmt.sumOver (f : Node → M) : Stmt → M
  | .functionDef head body =>
    f (.stmt (.functionDef head body)) +
      (Expr.sumsOver f head.parameters.expressions + Stmt.sumsOver f body +
        Expr.sumsOver f head.decorators + Expr.sumsOver f head.returns.toList)
  | .classDef head body =>
    f (.stmt (.classDef head body)) +
      (Expr.sumsOver f head.bases + Expr.sumsOver f head.keywords + Stmt.sumsOver f body +
        Expr.sumsOver f head.decorators)
  | .importNames names => f (.stmt (.importNames names))
  | .importFrom origin names => f (.stmt (.importFrom origin names))
  | .expr value => f (.stmt (.expr value)) + value.sumOver f
  | .simple kind parts => f (.stmt (.simple kind parts)) + Expr.sumsOver f parts
  | .compound kind parts blocks =>
    f (.stmt (.compound kind parts blocks)) + (Expr.sumsOver f parts + Block.sumsOver f blocks)

/--
The sum of `f` over several statements and all that is in them.
-/
def Stmt.sumsOver (f : Node → M) : List Stmt → M
  | [] => 0
  | s :: ss => s.sumOver f + Stmt.sumsOver f ss

/--
The sum of `f` over a block and all that is in it.
-/
def Block.sumOver (f : Node → M) : Block → M
  | .block role parts body =>
    f (.block (.block role parts body)) + (Expr.sumsOver f parts + Stmt.sumsOver f body)

/--
The sum of `f` over several blocks and all that is in them.
-/
def Block.sumsOver (f : Node → M) : List Block → M
  | [] => 0
  | b :: bs => b.sumOver f + Block.sumsOver f bs

end

namespace Node

/--
The sum of `f` over a node and all nodes below it.
-/
def sumOver (f : Node → M) : Node → M
  | .stmt s => s.sumOver f
  | .block b => b.sumOver f
  | .expr e => e.sumOver f

variable (f : Node → M)

@[simp]
theorem sum_map_expr (es : List Expr) : (es.map (sumOver f ∘ .expr)).sum = Expr.sumsOver f es := by
  induction es with
  | nil => rfl
  | cons e es ih => simp [ih, sumOver, Expr.sumsOver]

@[simp]
theorem sum_map_stmt (ss : List Stmt) : (ss.map (sumOver f ∘ .stmt)).sum = Stmt.sumsOver f ss := by
  induction ss with
  | nil => rfl
  | cons s ss ih => simp [ih, sumOver, Stmt.sumsOver]

@[simp]
theorem sum_map_block (bs : List Block) : (bs.map (sumOver f ∘ .block)).sum = Block.sumsOver f bs := by
  induction bs with
  | nil => rfl
  | cons b bs ih => simp [ih, sumOver, Block.sumsOver]

/--
The sum over a tree is what its root adds and the sums over the trees right below.
-/
theorem sumOver_eq (n : Node) : n.sumOver f = f n + (n.children.map (sumOver f)).sum := by
  cases n with
  | stmt s => cases s <;> simp [sumOver, children, Stmt.sumOver, add_assoc]
  | block b => cases b; simp [sumOver, children, Block.sumOver]
  | expr e => cases e <;> simp [sumOver, children, Expr.sumOver]

/--
The walk meets every node of the queued trees once: what it has still to add is what these trees add.
-/
theorem sum_walk (queue : List Node) : ((walk queue).map f).sum = (queue.map (sumOver f)).sum := by
  fun_induction walk queue with
  | case1 => rfl
  | case2 n rest ih =>
    rw [List.map_cons, List.sum_cons, ih, List.map_append, List.sum_append]
    rw [List.map_cons, List.sum_cons, sumOver_eq f n]
    rw [add_assoc, add_comm (n.children.map (sumOver f)).sum]

end Node

end Sums

/-! ### The complexity -/

namespace Node

theorem exists_place_of_mem_walk {queue : List Node} {m : Node} (h : m ∈ walk queue)
    : ∃ n ∈ queue, ∃ place, nodeAt? children place n = some m := by
  fun_induction walk queue with
  | case1 => cases h
  | case2 n rest ih =>
    cases List.mem_cons.mp h with
    | inl heq => exact ⟨n, List.mem_cons_self, [], by rw [heq]; rfl⟩
    | inr hmem =>
      rcases ih hmem with ⟨n', hn', place, hplace⟩
      cases List.mem_append.mp hn' with
      | inl hrest => exact ⟨n', List.mem_cons_of_mem _ hrest, place, hplace⟩
      | inr hchild =>
        rcases List.getElem?_of_mem hchild with ⟨i, hi⟩
        exact ⟨n, List.mem_cons_self, i :: place, nodeAt?_cons.mpr ⟨n', hi, hplace⟩⟩

/--
What a node adds to the complexity: one for a condition, a loop, a handler and a comprehension, and one less
than there are operands for a boolean operator.
-/
def weight : Node → Int
  | .stmt (.compound kind _ _) => if kind ∈ [.if_, .while_, .for_] then 1 else 0
  | .block (.block role _ _) => if role = .handler then 1 else 0
  | .expr (.boolean operands) => operands.length - 1
  | .expr (.other form _) => if form ∈ [.listComp, .setComp, .dictComp, .generator] then 1 else 0
  | _ => 0

theorem branches_eq_weight {n : Node} (h : ∀ operands, n = .expr (.boolean operands) → 2 ≤ operands.length)
    : (n.branches : Int) = n.weight := by
  cases n with
  | stmt s =>
    cases s with
    | compound kind parts blocks => cases kind <;> rfl
    | _ => rfl
  | block b =>
    rcases b with ⟨role, parts, body⟩
    cases role <;> rfl
  | expr e =>
    cases e with
    | boolean operands =>
      have := h operands rfl
      simp only [branches, weight]
      omega
    | other form parts => cases form <;> rfl
    | _ => rfl

/--
Every boolean operator in the tree below a node has two operands or more.
-/
def Chained (n : Node) : Prop :=
  ∀ place operands, nodeAt? children place n = some (.expr (.boolean operands)) → 2 ≤ operands.length

theorem sum_children_le (f : Node → Nat) (n : Node) : (n.children.map (sumOver f)).sum ≤ n.sumOver f := by
  rw [sumOver_eq f n]
  exact Nat.le_add_left _ _

/--
Counts a boolean operator with less than two operands.
-/
def unchained : Node → Nat
  | .expr (.boolean operands) => if operands.length < 2 then 1 else 0
  | _ => 0

theorem chained_iff_sumOver (n : Node) : n.Chained ↔ n.sumOver unchained = 0 := by
  constructor
  . intro h
    have hwalk := sum_walk unchained [n]
    rw [List.map_singleton, List.sum_singleton] at hwalk
    rw [← hwalk, List.sum_eq_zero_iff]
    intro count hcount
    rcases List.mem_map.mp hcount with ⟨m, hm, rfl⟩
    rcases exists_place_of_mem_walk hm with ⟨n', hn', place, hplace⟩
    cases List.mem_singleton.mp hn'
    unfold unchained
    split
    . next operands =>
      have := h place operands hplace
      rw [if_neg (by omega)]
    . rfl
  . intro h place operands hplace
    have hle : Node.sumOver unchained (.expr (.boolean operands)) ≤ n.sumOver unchained := by
      simpa using sum_le_of_apart (sum_children_le unchained)
        (List.forall_mem_singleton.mpr hplace : ∀ g ∈ [(place, Node.expr (.boolean operands))], _)
        (List.pairwise_singleton _ _)
    rw [h, sumOver_eq] at hle
    by_contra hshort
    simp [unchained, Nat.lt_of_not_le hshort] at hle

instance : DecidablePred Chained :=
  fun n => decidable_of_iff _ (chained_iff_sumOver n).symm

theorem sumOver_branches {n : Node} (h : n.Chained)
    : ((n.sumOver branches : Nat) : Int) = n.sumOver weight := by
  have hbranches := sum_walk branches [n]
  have hweight := sum_walk weight [n]
  rw [List.map_singleton, List.sum_singleton] at hbranches hweight
  rw [← hbranches, ← hweight, Nat.cast_list_sum, List.map_map]
  congr 1
  apply List.map_congr_left
  intro m hm
  apply branches_eq_weight
  rintro operands rfl
  rcases exists_place_of_mem_walk hm with ⟨n', hn', place, hplace⟩
  cases List.mem_singleton.mp hn'
  exact h place operands hplace

end Node

theorem Stmt.complexity_eq (s : Stmt) : s.complexity = 1 + (Node.stmt s).sumOver Node.branches := by
  have h := Node.sum_walk Node.branches [.stmt s]
  rw [List.map_singleton, List.sum_singleton] at h
  rw [← h]
  rfl

/--
The complexity of a function definition is one more than the sum, by recursion on the syntax, of what the nodes
in it add. So it is at least one, and definitions nested in it, none of them inside another, add up to no more
than the definition itself, if the one that each complexity starts from is left out.
-/
theorem complexity_sums_weights (head : FunctionHead) (body : List Stmt)
    (h : (Node.stmt (.functionDef head body)).Chained)
    : ((Stmt.functionDef head body).complexity : Int) =
        1 + (Node.stmt (.functionDef head body)).sumOver Node.weight ∧
      1 ≤ (Stmt.functionDef head body).complexity ∧
      ∀ gs : List (List Nat × FunctionHead × List Stmt),
        (∀ g ∈ gs, nodeAt? Node.children g.1 (.stmt (.functionDef head body)) =
          some (.stmt (.functionDef g.2.1 g.2.2))) →
        gs.Pairwise (fun g g' => Apart g.1 g'.1) →
        (gs.map fun g => ((Stmt.functionDef g.2.1 g.2.2).complexity : Int) - 1).sum ≤
          ((Stmt.functionDef head body).complexity : Int) - 1 := by
  refine ⟨?_, ?_, ?_⟩
  . rw [Stmt.complexity_eq, Nat.cast_add, Node.sumOver_branches h]
    rfl
  . rw [Stmt.complexity_eq]
    exact Nat.le_add_right _ _
  . intro gs hgs hapart
    simp only [Stmt.complexity_eq]
    exact sum_sub_one_le_of_apart (Node.sum_children_le Node.branches) hgs hapart

/--
The head of a function without parameters.
-/
def bareHead (name : String) : FunctionHead :=
  { name, isAsync := false, parameters := {}, decorators := [], returns := none, span := ⟨1, 1⟩ }

-- A loop with a condition of two parts.
def waitingBody : List Stmt :=
  [.compound .while_ [.boolean [.name "a", .name "b"]] []]

def wrapperHead : FunctionHead :=
  { bareHead "wrapper" with
    parameters := { defaults := [.boolean [.name "a", .name "b", .name "c"]] } }

-- A function under a condition and a method of a class.
def wrapperBody : List Stmt :=
  [.compound .if_ [.name "a"] [.block .body [] [.functionDef (bareHead "wait") waitingBody]],
    .classDef { name := "Queue", bases := [], keywords := [], decorators := [], span := ⟨1, 1⟩ }
      [.functionDef (bareHead "next") waitingBody]]

def wrapperFamily : List (List Nat × FunctionHead × List Stmt) :=
  [([1, 1, 0], bareHead "wait", waitingBody), ([2, 0], bareHead "next", waitingBody)]

theorem complexity_sums_weights_wrapper
    : (Node.stmt (.functionDef wrapperHead wrapperBody)).Chained ∧
      (∀ g ∈ wrapperFamily, nodeAt? Node.children g.1 (.stmt (.functionDef wrapperHead wrapperBody)) =
        some (.stmt (.functionDef g.2.1 g.2.2))) ∧
      wrapperFamily.Pairwise (fun g g' => Apart g.1 g'.1) ∧
      ((Stmt.functionDef wrapperHead wrapperBody).complexity : Int) = 8 ∧
      (wrapperFamily.map fun g => ((Stmt.functionDef g.2.1 g.2.2).complexity : Int) - 1).sum ≤ 7 := by
  have hchained : (Node.stmt (.functionDef wrapperHead wrapperBody)).Chained := by
    decide
  have hplaces : ∀ g ∈ wrapperFamily,
      nodeAt? Node.children g.1 (.stmt (.functionDef wrapperHead wrapperBody)) =
        some (.stmt (.functionDef g.2.1 g.2.2)) := by
    simp only [wrapperFamily, List.forall_mem_cons]
    exact ⟨rfl, rfl, List.forall_mem_nil _⟩
  have hapart : wrapperFamily.Pairwise fun g g' => Apart g.1 g'.1 := by
    decide
  rcases complexity_sums_weights wrapperHead wrapperBody hchained with ⟨hsum, _, hnested⟩
  have hvalue : (1 : Int) + (Node.stmt (.functionDef wrapperHead wrapperBody)).sumOver Node.weight = 8 := by
    decide
  rw [hvalue] at hsum
  have hle := hnested wrapperFamily hplaces hapart
  rw [hsum] at hle
  exact ⟨hchained, hplaces, hapart, hsum, hle⟩

end CodeAudit.Syntax
