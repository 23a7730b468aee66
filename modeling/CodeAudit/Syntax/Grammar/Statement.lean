import CodeAudit.Syntax.Grammar.Pattern

/-!
This module contains the grammar of statements.
-/

namespace CodeAudit.Syntax.Grammar

open CodeAudit.Syntax.Parser

/-! ### Simple statements -/

/--
What may stand on the right of an assignment.
-/
def assignedValue (r : Nested) : Parser Expr := do
  if (← peek).isKeyword "yield" then yieldExpression r else starExpressions r

/--
The operators that combine a place with a value and assign the result to it.
-/
def augmentedOperators : List String :=
  ["+=", "-=", "*=", "@=", "/=", "%=", "&=", "|=", "^=", "<<=", ">>=", "**=", "//="]

/--
The rest of an assignment after its first target. All but the last value are targets too.
-/
def assignmentRest (r : Nested) (first : Expr) : Parser Stmt := do
  let values ← whileMore (symbol? "=") (assignedValue r)
  guard ((first :: values).dropLast.all isTarget)
  return .simple .assign (first :: values)

/--
An assignment, or an expression as a statement.
-/
def expressionStatement (r : Nested) : Parser Stmt := do
  let first ← assignedValue r
  match ← peek with
  | .symbol "=" => assignmentRest r first
  | .symbol ":" =>
    let _ ← next
    guard (isPlace first)
    let hint ← r.expression
    if ← symbol? "=" then return .simple .annotatedAssign [first, hint, ← assignedValue r]
    else return .simple .annotatedAssign [first, hint]
  | .symbol s =>
    if augmentedOperators.contains s then
      let _ ← next
      guard (isPlace first)
      return .simple .augmentedAssign [first, ← assignedValue r]
    else return .expr first
  | _ => return .expr first

/--
A module's dotted name.
-/
def moduleName : Parser String := do
  return String.intercalate "." (← separated (symbol? ".") identifier)

/--
An imported thing, under its own name or another one. Gives its own name.
-/
def importedAs (p : Parser String) : Parser String := do
  let name ← p
  if ← keyword? "as" then
    let _ ← identifier
  return name

/--
The names that a statement with `from` imports.
-/
def importedNames : Parser (List String) := do
  if ← symbol? "*" then return ["*"]
  else if ← symbol? "(" then
    let (names, _) ← commaList (·.isSymbol ")") (importedAs identifier)
    symbol ")"
    return names
  else separated (symbol? ",") (importedAs identifier)

/--
`from ... import ...`. Leading dots may stand alone or before the name of a module.
-/
def importFromStatement : Parser Stmt := do
  keyword "from"
  let dots ← whileMore (accept? fun k => k.isSymbol "." || k.isSymbol "...") (pure ())
  let origin ← (do
    if (← peek).isKeyword "import" then
      guard (!dots.isEmpty)
      return ""
    else moduleName)
  keyword "import"
  return .importFrom origin (← importedNames)

/--
One or more names, divided by commas.
-/
def nameList : Parser (List String) := separated (symbol? ",") identifier

/--
A statement on a line, without its end.
-/
def simpleStatement (r : Nested) : Parser Stmt := do
  match ← peek with
  | .keyword "return" =>
    let _ ← next
    if startsExpression (← peek) then return .simple .return_ [← starExpressions r]
    else return .simple .return_ []
  | .keyword "import" =>
    let _ ← next
    return .importNames (← separated (symbol? ",") (importedAs moduleName))
  | .keyword "from" => importFromStatement
  | .keyword "raise" =>
    let _ ← next
    if startsExpression (← peek) then
      let error ← r.expression
      if ← keyword? "from" then return .simple .raise [error, ← r.expression]
      else return .simple .raise [error]
    else return .simple .raise []
  | .keyword "pass" =>
    let _ ← next
    return .simple .pass []
  | .keyword "del" =>
    let _ ← next
    let (es, _) ← commaList (!startsExpression ·) r.primary
    guard (areDeletable es)
    return .simple .delete es
  | .keyword "assert" =>
    let _ ← next
    let condition ← r.expression
    if ← symbol? "," then return .simple .assert [condition, ← r.expression]
    else return .simple .assert [condition]
  | .keyword "break" =>
    let _ ← next
    return .simple .break_ []
  | .keyword "continue" =>
    let _ ← next
    return .simple .continue_ []
  | .keyword "global" =>
    let _ ← next
    let _ ← nameList
    return .simple .global []
  | .keyword "nonlocal" =>
    let _ ← next
    let _ ← nameList
    return .simple .nonlocal []
  | _ => expressionStatement r

/--
The statements on a line. One more semicolon may stand at the end.
-/
def simpleStatements (r : Nested) : Parser (List Stmt) := do
  let first ← simpleStatement r
  let rest ← whileMore
    (do if ← symbol? ";" then return !(← peek).isNewline else return false) (simpleStatement r)
  newline
  return first :: rest

/-! ### Blocks -/

/--
A colon and a block: the rest of the line, or indented lines.
-/
def block (r : Nested) : Parser (List Stmt) := do
  symbol ":"
  if ← accept? (·.isNewline) then
    guard (← accept? fun | .indent => true | _ => false)
    let body ← r.statements
    guard (← accept? fun | .dedent => true | _ => false)
    return body
  else simpleStatements r

/--
A block after `else`, if there is one.
-/
def otherwise (r : Nested) : Parser (List Block) := do
  if ← keyword? "else" then return [.block .otherwise [] (← block r)] else return []

/--
The rest of a conditional statement after `if`. A further condition is a conditional statement of its
own in the other branch.
-/
def conditional (r : Nested) : Parser Stmt := do
  let test ← namedExpression r
  let body ← block r
  let further ← whileMore (keyword? "elif") (do
    let test ← namedExpression r
    let body ← block r
    return (test, body))
  let last ← otherwise r
  let rest := further.foldr
    (fun (test, body) rest =>
      [Block.block .otherwise [] [.compound .if_ [test] (.block .body [] body :: rest)]])
    last
  return .compound .if_ [test] (.block .body [] body :: rest)

/--
The rest of a loop after `while`.
-/
def whileLoop (r : Nested) : Parser Stmt := do
  let test ← namedExpression r
  let body ← block r
  return .compound .while_ [test] (.block .body [] body :: (← otherwise r))

/--
The rest of a loop after `for`.
-/
def forLoop (r : Nested) : Parser Stmt := do
  let targets ← starTargets r
  keyword "in"
  let range ← starExpressions r
  let body ← block r
  return .compound .for_ [targets, range] (.block .body [] body :: (← otherwise r))

/--
One item of a `with` statement, with or without a target.
-/
def withItem (r : Nested) : Parser (List Expr) := do
  let e ← r.expression
  if ← keyword? "as" then return [e, ← starTarget r] else return [e]

/--
The items of a `with` statement. Where parentheses hold all of them, they belong to the statement.
-/
def withItems (r : Nested) : Parser (List Expr) :=
  (do
    symbol "("
    let (items, _) ← commaList (·.isSymbol ")") (withItem r)
    symbol ")"
    guard ((← peek).isSymbol ":")
    return items.flatten)
  <|> (do return (← separated (symbol? ",") (withItem r)).flatten)

/--
The rest of a statement after `with`.
-/
def withStatement (r : Nested) : Parser Stmt := do
  let items ← withItems r
  return .compound .with_ items [.block .body [] (← block r)]

/--
A handler after `except`, in the form for groups if `group` says so.
-/
def handler (r : Nested) (group : Bool) : Parser Block := do
  let star ← symbol? "*"
  guard (star == group)
  if !group && (← peek).isSymbol ":" then return .block .handler [] (← block r)
  else
    let error ← r.expression
    if ← keyword? "as" then
      let _ ← identifier
    return .block .handler [error] (← block r)

/--
A block after `finally`, if there is one.
-/
def finalBlock (r : Nested) : Parser (List Block) := do
  if ← keyword? "finally" then return [.block .finally_ [] (← block r)] else return []

/--
The rest of a statement after `try`. Handlers come before `else`, and all are of one form.
-/
def tryStatement (r : Nested) : Parser Stmt := do
  let body ← block r
  if ← keyword? "except" then
    let group := (← peek).isSymbol "*"
    let first ← handler r group
    let rest ← whileMore (keyword? "except") (handler r group)
    let other ← otherwise r
    let final ← finalBlock r
    return .compound .try_ [] (.block .body [] body :: first :: rest ++ other ++ final)
  else
    let final ← finalBlock r
    guard (!final.isEmpty)
    return .compound .try_ [] (.block .body [] body :: final)

/--
One `case` of a `match` statement.
-/
def caseBlock (r : Nested) : Parser Block := do
  spelled "case"
  let ps ← patterns r
  let condition ← (do if ← keyword? "if" then return [← namedExpression r] else return [])
  return .block .case (ps ++ condition) (← block r)

/--
A `match` statement.
-/
def matchStatement (r : Nested) : Parser Stmt := do
  spelled "match"
  let (subjects, trailing) ← commaList (!startsExpression ·) (starNamedExpression r)
  guard (trailing || !subjects.all isStarred || subjects.length > 1)
  symbol ":"
  newline
  guard (← accept? fun | .indent => true | _ => false)
  let cases ← many1 (caseBlock r)
  guard (← accept? fun | .dedent => true | _ => false)
  return .compound .match_ [tupleOrSingle subjects trailing] cases

/-! ### Definitions -/

/--
The rest of a function definition after `def`, which stands on line `first`.
-/
def functionDefinition (r : Nested) (first : Nat) (isAsync : Bool) (decorators : List Expr) :
    Parser Stmt := do
  let name ← identifier
  symbol "("
  let ps ← parameters r true ")"
  symbol ")"
  let returns ← (do if ← symbol? "->" then return some (← r.expression) else return none)
  let body ← block r
  let last ← lastLine
  return .functionDef ⟨name, isAsync, ps, decorators, returns, ⟨first, last⟩⟩ body

/--
The rest of a class definition after `class`, which stands on line `first`.
-/
def classDefinition (r : Nested) (first : Nat) (decorators : List Expr) : Parser Stmt := do
  let name ← className
  let (bases, keywords) ← (do
    if ← symbol? "(" then
      let args ← arguments r false
      symbol ")"
      return args
    else return ([], []))
  let body ← block r
  let last ← lastLine
  return .classDef ⟨name.1, bases, keywords, decorators, ⟨first, last⟩, name.2⟩ body

/--
A decorator on a line of its own.
-/
def decorator (r : Nested) : Parser Expr := do
  let e ← namedExpression r
  newline
  return e

/--
A definition with its decorators, if it has any.
-/
def definition (r : Nested) : Parser Stmt := do
  let decorators ← whileMore (symbol? "@") (decorator r)
  let first ← currentLine
  if ← keyword? "class" then classDefinition r first decorators
  else
    let isAsync ← keyword? "async"
    keyword "def"
    functionDefinition r first isAsync decorators

/-! ### Statements -/

/--
A statement, or the statements on a line.
-/
def statement (r : Nested) : Parser (List Stmt) := do
  match ← peek, ← peekSecond with
  | .keyword "if", _ =>
    let _ ← next
    return [← conditional r]
  | .keyword "while", _ =>
    let _ ← next
    return [← whileLoop r]
  | .keyword "for", _ =>
    let _ ← next
    return [← forLoop r]
  | .keyword "with", _ =>
    let _ ← next
    return [← withStatement r]
  | .keyword "try", _ =>
    let _ ← next
    return [← tryStatement r]
  | .keyword "async", .keyword "for" =>
    let _ ← next
    let _ ← next
    return [← forLoop r]
  | .keyword "async", .keyword "with" =>
    let _ ← next
    let _ ← next
    return [← withStatement r]
  | .keyword "async", _ => return [← definition r]
  | .keyword "def", _ => return [← definition r]
  | .keyword "class", _ => return [← definition r]
  | .symbol "@", _ => return [← definition r]
  | .name "match", _ => (do return [← matchStatement r]) <|> simpleStatements r
  | _, _ => simpleStatements r

/--
The statements of a block.
-/
def statements (r : Nested) : Parser (List Stmt) := do
  return (← many1 (statement r)).flatten

end CodeAudit.Syntax.Grammar
