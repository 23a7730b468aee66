/-!
This module contains paths of files. Empty parts and single dots in a path mean nothing and are
dropped.
-/

namespace CodeAudit.Files

/--
A path: what stands before its parts (nothing, or one or two slashes), and its parts.
-/
structure Path where
  root : String
  parts : List String
  deriving DecidableEq

namespace Path

/--
Read a path. Two slashes at the start are kept; any other number of them is as good as one.
-/
def ofString (s : String) : Path :=
  let cs := s.toList
  let slashes := (cs.takeWhile (· == '/')).length
  let root := if slashes = 0 then "" else if slashes = 2 then "//" else "/"
  let parts := (cs.splitOn '/').map String.ofList
  ⟨root, parts.filter fun part => part != "" && part != "."⟩

/--
The text of a path. The path without parts is a dot.
-/
def toString (p : Path) : String :=
  if p.root == "" && p.parts.isEmpty then "."
  else p.root ++ String.intercalate "/" p.parts

/--
The path of something in a folder.
-/
def child (p : Path) (name : String) : Path :=
  { p with parts := p.parts ++ [name] }

/--
The ending of a name from its last dot on. A dot at the start or the end of the name makes no ending.
-/
def nameSuffix (name : List Char) : List Char :=
  let ending := (name.reverse.takeWhile (· != '.')).reverse
  let dot := name.length - ending.length
  if dot ≤ 1 || ending.isEmpty then [] else '.' :: ending

/--
The ending of the last part of a path.
-/
def suffix (p : Path) : String :=
  match p.parts.getLast? with
  | none => ""
  | some name => String.ofList (nameSuffix name.toList)

end Path

end CodeAudit.Files
