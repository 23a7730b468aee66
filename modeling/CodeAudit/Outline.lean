import CodeAudit.Data.Value
import CodeAudit.Text.Lines

/-!
This module contains the outline of a source file: the functions, classes and methods in it, what it
imports, how many lines it has, and the problems that kept it from being read.
-/

namespace CodeAudit

/--
What an entry of an outline stands for.
-/
inductive EntryKind where
  | function
  | class_
  | method
  | variable_
  | import_
  | module_
  deriving DecidableEq

namespace EntryKind

/--
All kinds with their names.
-/
def named : Table EntryKind :=
  [("function", .function), ("class", .class_), ("method", .method), ("variable", .variable_),
    ("import", .import_), ("module", .module_)]

/--
The name of a kind.
-/
def name : EntryKind → String
  | .function => "function"
  | .class_ => "class"
  | .method => "method"
  | .variable_ => "variable"
  | .import_ => "import"
  | .module_ => "module"

end EntryKind

/--
A definition in a source file.
-/
structure Entry where
  kind : EntryKind
  name : String
  firstLine : Int
  lastLine : Int
  complexity : Int := 0
  params : List String := []
  decorators : List String := []
  docstring : Option String := none
  /-- Further facts that depend on the language. -/
  details : Table Value := []

/--
The outline of a source file.
-/
structure Outline where
  path : String
  language : String
  entries : List Entry := []
  imports : List String := []
  lines : Text.LineCounts := {}
  problems : List String := []

namespace Outline

/--
The entries of one kind.
-/
def ofKind (o : Outline) (kind : EntryKind) : List Entry :=
  o.entries.filter fun e => e.kind = kind

/-- The functions that are no methods. -/
def functions (o : Outline) : List Entry := o.ofKind .function

/-- The classes. -/
def classes (o : Outline) : List Entry := o.ofKind .class_

/-- The methods. -/
def methods (o : Outline) : List Entry := o.ofKind .method

/--
The outline of a file that could not be read, with the reason.
-/
def failed (path language problem : String) : Outline :=
  { path, language, problems := [problem] }

end Outline

end CodeAudit
