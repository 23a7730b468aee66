/-!
This module contains the syntax tree of a Python module. Constructs that the analysis tells apart have
constructors of their own; the others are kept as a form with their parts in source order.
-/

namespace CodeAudit.Syntax

/--
The forms of expressions that the analysis only walks through.
-/
inductive Form where
  | binary
  | unary
  | compare
  | conditional
  | lambda
  | named
  | await
  | yield
  | yieldFrom
  | subscript
  | slice
  | starred
  | list
  | tuple
  | set
  | dict
  | listComp
  | setComp
  | dictComp
  | generator
  | formatted
  deriving DecidableEq

/--
Whether the form is a comprehension or a generator expression.
-/
def Form.isComprehension : Form → Bool
  | .listComp | .setComp | .dictComp | .generator => true
  | _ => false

/--
An expression.
-/
inductive Expr where
  /-- A name in normal form. -/
  | name (id : String)
  /-- `value.attr` -/
  | attribute (value : Expr) (attr : String)
  /-- A call with the values of all its arguments. -/
  | call (function : Expr) (arguments : List Expr)
  /-- A string constant. -/
  | text (value : String)
  /-- Any other constant. -/
  | constant
  /-- A chain of one of the operators `and` and `or`. -/
  | boolean (operands : List Expr)
  /-- Any other expression. -/
  | other (form : Form) (parts : List Expr)

/--
A declared parameter of a function.
-/
structure Parameter where
  name : String
  /-- The type that the declaration gives. -/
  hint : Option Expr

/--
The parameters of a function, by kind.
-/
structure Parameters where
  /-- Parameters before the mark `/`. -/
  positionalOnly : List Parameter := []
  /-- Parameters that may be given by position and by name. -/
  ordinary : List Parameter := []
  /-- The parameter that takes further positional arguments. -/
  rest : Option Parameter := none
  /-- Parameters after a star. -/
  keywordOnly : List Parameter := []
  /-- The parameter that takes further named arguments. -/
  keywordRest : Option Parameter := none
  /-- The default values. -/
  defaults : List Expr := []

/--
The first and the last line of a definition.
-/
structure Span where
  first : Nat
  last : Nat
  deriving DecidableEq

/--
A function definition without its body.
-/
structure FunctionHead where
  name : String
  isAsync : Bool
  parameters : Parameters
  decorators : List Expr
  returns : Option Expr
  span : Span

/--
A class definition without its body. A class has a name.
-/
structure ClassHead where
  name : String
  bases : List Expr
  /-- The values of named arguments. -/
  keywords : List Expr
  decorators : List Expr
  span : Span
  named : name ≠ "" := by decide

/--
Statements that hold no other statements, and are neither imports nor single expressions.
-/
inductive SimpleKind where
  | assign
  | augmentedAssign
  | annotatedAssign
  | return_
  | raise
  | delete
  | assert
  | pass
  | break_
  | continue_
  | global
  | nonlocal
  deriving DecidableEq

/--
Statements that hold other statements and define nothing.
-/
inductive CompoundKind where
  | if_
  | while_
  | for_
  | with_
  | try_
  | match_
  deriving DecidableEq

/--
The place of a block in its statement.
-/
inductive Role where
  | body
  | otherwise
  | handler
  | finally_
  | case
  deriving DecidableEq

mutual

/--
A statement.
-/
inductive Stmt where
  | functionDef (head : FunctionHead) (body : List Stmt)
  | classDef (head : ClassHead) (body : List Stmt)
  /-- `import`, with the dotted names that it imports. -/
  | importNames (names : List String)
  /-- `from ... import`, with the dotted name of the module, empty if there is none. -/
  | importFrom (origin : String) (names : List String)
  /-- An expression as a statement. -/
  | expr (value : Expr)
  | simple (kind : SimpleKind) (parts : List Expr)
  | compound (kind : CompoundKind) (parts : List Expr) (blocks : List Block)

/--
A block of a compound statement, with the expressions of its own that stand before it.
-/
inductive Block where
  | block (role : Role) (parts : List Expr) (body : List Stmt)

end

end CodeAudit.Syntax
