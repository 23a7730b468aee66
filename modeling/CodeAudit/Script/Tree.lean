/-!
This module contains the syntax trees of scripts, as a parser gives them.
-/

namespace CodeAudit.Script

/--
A node of a syntax tree: its kind, where its text starts and ends, the rows of its first and its last
character, its field in the node above, and the nodes below it. Places are numbers of bytes, and rows
count from zero.
-/
inductive Tree where
  | node (kind : String) (start stop firstRow lastRow : Nat) (field : Option String)
      (children : List Tree)

namespace Tree

/-- The kind of a node. -/
def kind : Tree → String
  | .node kind _ _ _ _ _ _ => kind

/-- Where the text of a node starts. -/
def start : Tree → Nat
  | .node _ start _ _ _ _ _ => start

/-- Where the text of a node ends. -/
def stop : Tree → Nat
  | .node _ _ stop _ _ _ _ => stop

/-- The row of the first character of a node. -/
def firstRow : Tree → Nat
  | .node _ _ _ row _ _ _ => row

/-- The row of the last character of a node. -/
def lastRow : Tree → Nat
  | .node _ _ _ _ row _ _ => row

/-- The field of a node in the node above it. -/
def field : Tree → Option String
  | .node _ _ _ _ _ field _ => field

/-- The nodes below a node. -/
def children : Tree → List Tree
  | .node _ _ _ _ _ _ children => children

/--
The first node below with the given field.
-/
def child? (t : Tree) (field : String) : Option Tree :=
  t.children.find? fun c => c.field == some field

/--
The first node below of one of the given kinds.
-/
def childOfKind? (t : Tree) (kinds : List String) : Option Tree :=
  t.children.find? fun c => kinds.contains c.kind

/--
The text of a node. Its places count characters here, so they fit only where all characters before
are of one byte.
-/
def text (code : List Char) (t : Tree) : List Char :=
  (code.drop t.start).take (t.stop - t.start)

mutual

/--
A node and all nodes below it, each before those below it.
-/
def preorder : Tree → List Tree
  | .node kind start stop firstRow lastRow field children =>
    .node kind start stop firstRow lastRow field children :: preorderAll children

/--
The nodes of several trees.
-/
def preorderAll : List Tree → List Tree
  | [] => []
  | t :: rest => preorder t ++ preorderAll rest

end

end Tree

end CodeAudit.Script
