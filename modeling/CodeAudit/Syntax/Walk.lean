import CodeAudit.Syntax.Tree

/-!
This module contains the nodes of a syntax tree, the walk over them in order of depth, and the
complexity that is counted along the walk.
-/

namespace CodeAudit.Syntax

/--
The expressions in the declaration of parameters: the types that are given, then the defaults.
-/
def Parameters.expressions (ps : Parameters) : List Expr :=
  let declared := ps.positionalOnly ++ ps.ordinary ++ ps.rest.toList ++ ps.keywordOnly ++
    ps.keywordRest.toList
  declared.filterMap (·.hint) ++ ps.defaults

/-! ### Sizes -/

mutual

/--
How many expressions there are in an expression, itself included.
-/
def Expr.size : Expr → Nat
  | .attribute value _ => value.size + 1
  | .call function arguments => function.size + Expr.sizes arguments + 1
  | .boolean operands => Expr.sizes operands + 1
  | .other _ parts => Expr.sizes parts + 1
  | _ => 1

/--
How many expressions there are in several expressions.
-/
def Expr.sizes : List Expr → Nat
  | [] => 0
  | e :: es => e.size + Expr.sizes es

end

mutual

/--
How many statements, blocks and expressions there are in a statement, itself included.
-/
def Stmt.size : Stmt → Nat
  | .functionDef head body =>
    Expr.sizes head.parameters.expressions + Stmt.sizes body + Expr.sizes head.decorators +
      Expr.sizes head.returns.toList + 1
  | .classDef head body =>
    Expr.sizes head.bases + Expr.sizes head.keywords + Stmt.sizes body + Expr.sizes head.decorators + 1
  | .importNames _ => 1
  | .importFrom _ _ => 1
  | .expr value => value.size + 1
  | .simple _ parts => Expr.sizes parts + 1
  | .compound _ parts blocks => Expr.sizes parts + Block.sizes blocks + 1

/--
How many statements, blocks and expressions there are in several statements.
-/
def Stmt.sizes : List Stmt → Nat
  | [] => 0
  | s :: ss => s.size + Stmt.sizes ss

/--
How many statements, blocks and expressions there are in a block, itself included.
-/
def Block.size : Block → Nat
  | .block _ parts body => Expr.sizes parts + Stmt.sizes body + 1

/--
How many statements, blocks and expressions there are in several blocks.
-/
def Block.sizes : List Block → Nat
  | [] => 0
  | b :: bs => b.size + Block.sizes bs

end

/-! ### Nodes -/

/--
A node of a syntax tree.
-/
inductive Node where
  | stmt (s : Stmt)
  | block (b : Block)
  | expr (e : Expr)

namespace Node

/--
The nodes right below a node, in the order in which the construct holds them.
-/
def children : Node → List Node
  | .stmt (.functionDef head body) =>
    head.parameters.expressions.map .expr ++ body.map .stmt ++ head.decorators.map .expr ++
      head.returns.toList.map .expr
  | .stmt (.classDef head body) =>
    head.bases.map .expr ++ head.keywords.map .expr ++ body.map .stmt ++ head.decorators.map .expr
  | .stmt (.importNames _) => []
  | .stmt (.importFrom _ _) => []
  | .stmt (.expr value) => [.expr value]
  | .stmt (.simple _ parts) => parts.map .expr
  | .stmt (.compound _ parts blocks) => parts.map .expr ++ blocks.map .block
  | .block (.block _ parts body) => parts.map .expr ++ body.map .stmt
  | .expr (.attribute value _) => [.expr value]
  | .expr (.call function arguments) => .expr function :: arguments.map .expr
  | .expr (.boolean operands) => operands.map .expr
  | .expr (.other _ parts) => parts.map .expr
  | .expr _ => []

/--
How many nodes there are in the tree below a node, itself included.
-/
def size : Node → Nat
  | .stmt s => s.size
  | .block b => b.size
  | .expr e => e.size

/--
How many nodes there are in several trees.
-/
def sizes : List Node → Nat
  | [] => 0
  | n :: ns => n.size + sizes ns

@[simp]
theorem sizes_nil : sizes [] = 0 := rfl

@[simp]
theorem sizes_cons (n : Node) (ns : List Node) : sizes (n :: ns) = n.size + sizes ns := rfl

@[simp]
theorem sizes_append (ms ns : List Node) : sizes (ms ++ ns) = sizes ms + sizes ns := by
  induction ms with
  | nil => simp
  | cons m ms ih => simp [ih, Nat.add_assoc]

@[simp]
theorem sizes_map_expr (es : List Expr) : sizes (es.map .expr) = Expr.sizes es := by
  induction es with
  | nil => rfl
  | cons e es ih => simp [ih, size, Expr.sizes]

@[simp]
theorem sizes_map_stmt (ss : List Stmt) : sizes (ss.map .stmt) = Stmt.sizes ss := by
  induction ss with
  | nil => rfl
  | cons s ss ih => simp [ih, size, Stmt.sizes]

@[simp]
theorem sizes_map_block (bs : List Block) : sizes (bs.map .block) = Block.sizes bs := by
  induction bs with
  | nil => rfl
  | cons b bs ih => simp [ih, size, Block.sizes]

/--
A node is one more than the trees below it.
-/
theorem size_eq (n : Node) : n.size = sizes n.children + 1 := by
  cases n with
  | stmt s => cases s <;> simp [size, children, Stmt.size, Nat.add_assoc]
  | block b => cases b; simp [size, children, Block.size]
  | expr e => cases e <;> simp [size, children, Expr.size]

/--
The nodes of the trees in `queue`, those nearer to the roots first.
-/
def walk (queue : List Node) : List Node :=
  match queue with
  | [] => []
  | n :: rest => n :: walk (rest ++ n.children)
termination_by sizes queue
decreasing_by simp [size_eq n]; omega

/--
How many paths a node adds: one for a condition, a loop, a handler and a comprehension, and one for
each operand of a boolean operator after the first.
-/
def branches : Node → Nat
  | .stmt (.compound .if_ _ _) => 1
  | .stmt (.compound .while_ _ _) => 1
  | .stmt (.compound .for_ _ _) => 1
  | .block (.block .handler _ _) => 1
  | .expr (.boolean operands) => operands.length - 1
  | .expr (.other form _) => if form.isComprehension then 1 else 0
  | _ => 0

end Node

/--
The cyclomatic complexity of a statement: one more than the paths that its nodes add.
-/
def Stmt.complexity (s : Stmt) : Nat :=
  1 + ((Node.walk [.stmt s]).map Node.branches).foldr (· + ·) 0

end CodeAudit.Syntax
