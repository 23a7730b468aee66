import CodeAudit.Files.Path
import CodeAudit.Text.Encoding
import CodeAudit.Text.Lines

/-!
This module contains a store of files and folders, and what can go wrong when it is read.
-/

namespace CodeAudit.Files

/--
What stands under a path.
-/
inductive Content where
  | file (bytes : List Nat)
  | folder

/--
Why a file cannot be read.
-/
inductive ReadFault where
  | missing (path : String)
  | isFolder (path : String)
  | notFolder (path : String)
  | nullByte
  | undecodable (e : Text.Undecodable)
  deriving DecidableEq

/--
What is said about a file that cannot be read.
-/
def ReadFault.message : ReadFault → String
  | .missing path => "[Errno 2] No such file or directory: " ++ Text.quoted path
  | .isFolder path => "[Errno 21] Is a directory: " ++ Text.quoted path
  | .notFolder path => "[Errno 20] Not a directory: " ++ Text.quoted path
  | .nullByte => "embedded null byte"
  | .undecodable e => e.message

/--
Files and folders by their parts from the top folder on, and the parts of the working folder, from which
paths without a root start. The folder of everything in the store is in the store.
-/
structure Store where
  entries : List (List String × Content)
  here : List String := []

namespace Store

/--
What stands under the given parts. The top folder is always there.
-/
def content? (s : Store) (parts : List String) : Option Content :=
  if parts.isEmpty then some .folder else s.entries.lookup parts

/--
Put in an entry, in place of one with the same parts if there is one.
-/
def put (s : Store) (parts : List String) (c : Content) : Store :=
  if s.entries.any (·.1 == parts) then
    { s with entries := s.entries.map fun entry => if entry.1 == parts then (parts, c) else entry }
  else { s with entries := s.entries ++ [(parts, c)] }

/--
Put in the folders above the given parts that are not there yet.
-/
def putParents (s : Store) (parts : List String) : Store :=
  (List.range parts.length).foldl
    (fun s n =>
      let above := parts.take n
      if (s.content? above).isSome then s else s.put above .folder)
    s

/--
Write a file or make a folder, and the folders above it.
-/
def write (s : Store) (path : String) (c : Content) : Store :=
  let p := Path.ofString path
  let parts := if p.root == "" then s.here ++ p.parts else p.parts
  if parts.isEmpty then s
  else
    match c with
    | .folder => if (s.content? parts).isSome then s.putParents parts else (s.putParents parts).put parts c
    | .file _ => (s.putParents parts).put parts c

/--
The store with the given working folder and the given files and folders.
-/
def ofList (here : List String) (files : List (String × Content)) : Store :=
  files.foldl (fun s file => s.write file.1 file.2) (write { entries := [], here } "." .folder)

/--
The path of the working folder from the top folder on.
-/
def workingPath (s : Store) : Path :=
  ⟨"/", s.here⟩

/--
Where a path leads.
-/
inductive Place where
  | file (bytes : List Nat)
  | folder (parts : List String)
  | missing
  | notFolder

/--
Follow the steps of a path from a place. Two dots lead to the folder above, and from the top folder to
itself.
-/
def follow (s : Store) : Place → List String → Place
  | place, [] => place
  | .folder parts, step :: steps =>
    if step == "" || step == "." then s.follow (.folder parts) steps
    else if step == ".." then s.follow (.folder parts.dropLast) steps
    else
      match s.content? (parts ++ [step]) with
      | some (.file bytes) => s.follow (.file bytes) steps
      | some .folder => s.follow (.folder (parts ++ [step])) steps
      | none => .missing
  | .file _, _ :: _ => .notFolder
  | place, _ :: _ => place

/--
Where a path leads: with a slash at its start from the top folder, else from the working folder.
-/
def locate (s : Store) (path : String) : Place :=
  if path == "" then .missing
  else
    let start := if path.toList.head? == some '/' then [] else s.here
    s.follow (.folder start) ((path.toList.splitOn '/').map String.ofList)

/--
Whether there is something under the path.
-/
def exists? (s : Store) (path : String) : Bool :=
  match s.locate path with
  | .file _ => true
  | .folder _ => true
  | _ => false

/--
The bytes of a file.
-/
def readBytes (s : Store) (path : String) : Except ReadFault (List Nat) :=
  if path.toList.contains '\x00' then .error .nullByte
  else
    match s.locate path with
    | .file bytes => .ok bytes
    | .folder _ => .error (.isFolder path)
    | .missing => .error (.missing path)
    | .notFolder => .error (.notFolder path)

/--
The text of a file, with every kind of line end read as a line feed.
-/
def readText (s : Store) (path : String) : Except ReadFault (List Char) := do
  let bytes ← s.readBytes path
  match Text.decode bytes with
  | .ok cs => return Text.unifyLineEnds cs
  | .error e => throw (.undecodable e)

/--
The names of what stands in a folder, and whether each is a folder.
-/
def list (s : Store) (parts : List String) : List (String × Bool) :=
  s.entries.filterMap fun (path, c) =>
    match path.getLast? with
    | some name =>
      if path.dropLast == parts then
        some (name, match c with | .folder => true | .file _ => false)
      else none
    | none => none

end Store

end CodeAudit.Files
