import CodeAudit.Outline
import CodeAudit.Syntax.Docstring
import CodeAudit.Syntax.Walk

/-!
This module contains the survey of a syntax tree: one pass in source order that lists every definition
and every import, however deep it is nested.
-/

namespace CodeAudit.Syntax

/-! ### Names of expressions -/

/--
The name of a form in the notation for syntax nodes.
-/
def Form.nodeName : Form → String
  | .binary => "BinOp"
  | .unary => "UnaryOp"
  | .compare => "Compare"
  | .conditional => "IfExp"
  | .lambda => "Lambda"
  | .named => "NamedExpr"
  | .await => "Await"
  | .yield => "Yield"
  | .yieldFrom => "YieldFrom"
  | .subscript => "Subscript"
  | .slice => "Slice"
  | .starred => "Starred"
  | .list => "List"
  | .tuple => "Tuple"
  | .set => "Set"
  | .dict => "Dict"
  | .listComp => "ListComp"
  | .setComp => "SetComp"
  | .dictComp => "DictComp"
  | .generator => "GeneratorExp"
  | .formatted => "JoinedStr"

/--
The name of an expression in the notation for syntax nodes.
-/
def Expr.nodeName : Expr → String
  | .name _ => "Name"
  | .attribute _ _ => "Attribute"
  | .call _ _ => "Call"
  | .text _ => "Constant"
  | .constant => "Constant"
  | .boolean _ => "BoolOp"
  | .other form _ => form.nodeName

/--
How an expression is shown that has no name: by its form and the address at which it is kept.
-/
def Expr.placeholder (address : Nat) (e : Expr) : String :=
  "<ast." ++ e.nodeName ++ " object at 0x" ++ String.ofList (Nat.toDigits 16 address) ++ ">"

/--
The dotted name of an expression. What is no name in it is kept at the address and is shown by a placeholder.
-/
def Expr.dottedName (address : Nat) : Expr → String
  | .name id => id
  | .attribute value attr => value.dottedName address ++ "." ++ attr
  | e => e.placeholder address

/--
The name of a decorator. A call goes by the name of what is called.
-/
def Expr.decoratorName (address : Nat) : Expr → String
  | .name id => id
  | .call function _ => function.dottedName address
  | .attribute value attr => (Expr.attribute value attr).dottedName address
  | e => e.placeholder address

/-! ### The survey -/

/--
The addresses at which expressions without a name are kept: by the line of the definition that has the
expression, and the place of the expression among its decorators and bases.
-/
abbrev Addresses := Nat → Nat → Nat

/--
What a survey has found so far, and the class in whose definition it is.
-/
structure Survey where
  addresses : Addresses
  entries : List Entry := []
  imports : List String := []
  owner : Option String := none

namespace Survey

/--
The names of the decorators of the definition on a line.
-/
def decoratorNames (addresses : Addresses) (line : Nat) (decorators : List Expr) : List String :=
  decorators.mapIdx fun n decorator => decorator.decoratorName (addresses line n)

/--
The names of the bases of a class. They come after its decorators.
-/
def baseNames (addresses : Addresses) (head : ClassHead) : List String :=
  head.bases.mapIdx fun n base => base.dottedName (addresses head.span.first (head.decorators.length + n))

/--
The entry of a function definition. It is a method if the class around it has a name that is not empty.
-/
def functionEntry (addresses : Addresses) (owner : Option String) (head : FunctionHead) (body : List Stmt) :
    Entry :=
  { kind := if owner.any (· != "") then .method else .function
    name := head.name
    firstLine := head.span.first
    lastLine := head.span.last
    complexity := (Stmt.functionDef head body).complexity
    params := head.parameters.ordinary.map (·.name)
    decorators := decoratorNames addresses head.span.first head.decorators
    docstring := Docstring.ofBody? body
    details :=
      [("class", match owner with | some name => .text name | none => .null),
        ("is_async", .bool head.isAsync)] }

/--
The entry of a class definition.
-/
def classEntry (addresses : Addresses) (head : ClassHead) (body : List Stmt) : Entry :=
  { kind := .class_
    name := head.name
    firstLine := head.span.first
    lastLine := head.span.last
    decorators := decoratorNames addresses head.span.first head.decorators
    docstring := Docstring.ofBody? body
    details := [("bases", .list ((baseNames addresses head).map .text))] }

/--
How a name is listed that is imported from a module.
-/
def importedName (origin name : String) : String :=
  if origin == "" then name else origin ++ "." ++ name

/-- List an entry. -/
def addEntry (v : Survey) (e : Entry) : Survey := { v with entries := v.entries ++ [e] }

/-- List imports. -/
def addImports (v : Survey) (names : List String) : Survey :=
  { v with imports := v.imports ++ names }

mutual

/--
Survey a statement. The owner changes inside a class and is the same again after it.
-/
def visit (v : Survey) : Stmt → Survey
  | .functionDef head body =>
    (v.addEntry (functionEntry v.addresses v.owner head body)).visitAll body
  | .classDef head body =>
    let inside := { v.addEntry (classEntry v.addresses head body) with owner := some head.name }
    { inside.visitAll body with owner := v.owner }
  | .importNames names => v.addImports names
  | .importFrom origin names => v.addImports (names.map (importedName origin))
  | .compound _ _ blocks => v.visitBlocks blocks
  | .expr _ => v
  | .simple _ _ => v

/--
Survey statements in order.
-/
def visitAll (v : Survey) : List Stmt → Survey
  | [] => v
  | s :: ss => (v.visit s).visitAll ss

/--
Survey blocks in order.
-/
def visitBlocks (v : Survey) : List Block → Survey
  | [] => v
  | .block _ _ body :: bs => (v.visitAll body).visitBlocks bs

end

/--
The survey of a module.
-/
def ofModule (addresses : Addresses) (body : List Stmt) : Survey :=
  visitAll { addresses } body

end Survey

end CodeAudit.Syntax
