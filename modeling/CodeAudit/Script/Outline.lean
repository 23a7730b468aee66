import CodeAudit.Fault
import CodeAudit.Outline
import CodeAudit.Script.LineCount
import CodeAudit.Script.Tree
import CodeAudit.Text.Encoding

/-!
This module contains the outline of a script, made from its text and its syntax tree.
-/

namespace CodeAudit.Script

/--
The text of a node.
-/
def nodeText (code : List Char) (t : Tree) : String :=
  String.ofList (t.text code)

/-! ### Entries -/

/--
The name of a parameter, if it is one that is named: an identifier, one with a default, or the first
identifier of a parameter with a type.
-/
def paramName? (code : List Char) (t : Tree) : Option String :=
  match t.kind with
  | "identifier" => some (nodeText code t)
  | "assignment_pattern" =>
    match t.child? "left" with
    | some left => if left.kind == "identifier" then some (nodeText code left) else none
    | none => none
  | "required_parameter" => (t.childOfKind? ["identifier"]).map (nodeText code)
  | _ => none

/--
The names of the parameters of a function.
-/
def paramNames (code : List Char) (t : Tree) : List String :=
  match t.child? "parameters" with
  | some params => params.children.filterMap (paramName? code)
  | none => []

/--
The kinds of nodes where the flow of control divides.
-/
def branchKinds : List String :=
  ["if_statement", "for_statement", "while_statement", "do_statement", "switch_statement",
    "catch_clause", "conditional_expression"]

mutual

/--
How many nodes of a tree divide the flow of control.
-/
def branches : Tree → Nat
  | .node kind _ _ _ _ _ children =>
    (if branchKinds.contains kind then 1 else 0) + branchesAll children

/--
How many nodes of several trees divide the flow of control.
-/
def branchesAll : List Tree → Nat
  | [] => 0
  | t :: rest => branches t + branchesAll rest

end

/--
The complexity of a function.
-/
def complexity (t : Tree) : Nat :=
  1 + branches t

/--
The entry of a function whose name is a node of one of the given kinds.
-/
def functionEntry? (code : List Char) (kind : EntryKind) (nameKinds : List String) (t : Tree) :
    Option Entry :=
  (t.childOfKind? nameKinds).map fun name =>
    { kind
      name := nodeText code name
      firstLine := name.firstRow + 1
      lastLine := t.lastRow + 1
      complexity := complexity t
      params := paramNames code t }

/--
The entry of a class.
-/
def classEntry? (code : List Char) (t : Tree) : Option Entry :=
  (t.childOfKind? ["identifier", "type_identifier"]).map fun name =>
    { kind := .class_
      name := nodeText code name
      firstLine := name.firstRow + 1
      lastLine := t.lastRow + 1 }

/--
The entry of a variable.
-/
def variableEntry? (code : List Char) (t : Tree) : Option Entry :=
  (t.child? "name").map fun name =>
    { kind := .variable_
      name := nodeText code name
      firstLine := name.firstRow + 1
      lastLine := name.lastRow + 1 }

/--
The entry of a node, if it defines something that has a name.
-/
def entryOf? (code : List Char) (t : Tree) : Option Entry :=
  match t.kind with
  | "function_declaration" => functionEntry? code .function ["identifier"] t
  | "method_definition" =>
    functionEntry? code .method ["property_identifier", "identifier", "string"] t
  | "class_declaration" => classEntry? code t
  | "variable_declarator" => variableEntry? code t
  | _ => none

mutual

/--
Add the entries of a tree to those found before it.
-/
def collect (code : List Char) (found : List Entry) : Tree → List Entry
  | .node kind start stop firstRow lastRow field children =>
    let own := entryOf? code (.node kind start stop firstRow lastRow field children)
    collectAll code (found ++ own.toList) children

/--
Add the entries of several trees to those found before them.
-/
def collectAll (code : List Char) (found : List Entry) : List Tree → List Entry
  | [] => found
  | t :: rest => collectAll code (collect code found t) rest

end

/--
The entries of a tree.
-/
def entries (code : List Char) (t : Tree) : List Entry :=
  collect code [] t

/-! ### Imports -/

/--
The text of a node without blanks at its ends.
-/
def strippedText (code : List Char) (t : Tree) : String :=
  String.ofList (Text.strip (t.text code))

/--
Whether a node calls the function that loads a module, with a text among the arguments.
-/
def isRequire (code : List Char) (t : Tree) : Bool :=
  t.kind == "call_expression" &&
    match t.child? "function", t.child? "arguments" with
    | some function, some arguments =>
      function.kind == "identifier" && arguments.kind == "arguments" &&
        arguments.children.any (·.kind == "string") && nodeText code function == "require"
    | _, _ => false

/--
What a script imports: first by statements, then by calls.
-/
def imports (code : List Char) (t : Tree) : List String :=
  let nodes := t.preorder
  ((nodes.filter (·.kind == "import_statement")) ++ nodes.filter (isRequire code)).map
    (strippedText code)

/-! ### Outlines -/

/--
What a parser gives for the text of a script.
-/
structure Parsed where
  /-- The tree, if there is one. -/
  root : Option Tree
  /-- Whether the text breaks the rules of the language. -/
  hasError : Bool := false
  /-- Whether the tree can be searched for imports. -/
  searchable : Bool := true

/--
A parser for scripts.
-/
abbrev Parser := List Char → Parsed

/--
The outline of a script.
-/
def outline (language : ScriptLanguage) (code : List Char) (path : String) (p : Parsed) : Outline :=
  match p.root with
  | none =>
    .failed path language.name
      (language.title ++ " parsing error: " ++
        (Misuse.noOperation Value.null.kindName "has_error").message)
  | some root =>
    { path
      language := language.name
      entries := entries code root
      imports := if p.searchable then imports code root else []
      lines := lineCounts code
      problems := if p.hasError then [language.title ++ " syntax error detected"] else [] }

/--
The outline of a script that is given by its code points.
-/
def outlineOfCodePoints (language : ScriptLanguage) (ns : List Nat) (path : String) (parse : Parser) :
    Outline :=
  match Text.ofCodePoints ns with
  | .ok code => outline language code path (parse code)
  | .error e => .failed path language.name (language.title ++ " parsing error: " ++ e.message)

/--
The outline of a script in a file.
-/
def outlineOfFile (language : ScriptLanguage) (files : Files.Store) (path : String) (parse : Parser) :
    Outline :=
  match files.readText path with
  | .ok code => outline language code path (parse code)
  | .error e => .failed path language.name ("File reading error: " ++ e.message)

end CodeAudit.Script
