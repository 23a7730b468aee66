import CodeAudit.Files.Store
import CodeAudit.Text.Wildcard

/-!
This module contains the search for files by a pattern with several parts. A part of two stars stands
for any number of folders.
-/

namespace CodeAudit.Files

/--
One part of a search pattern.
-/
inductive PatternPart where
  /-- Nothing more: what was found so far is the result. -/
  | here
  /-- Any number of folders. -/
  | folders
  /-- A name with wildcards. -/
  | wildcard (pattern : String)
  /-- A name. -/
  | name (s : String)

/--
Whether two stars stand next to each other.
-/
def hasTwoStars : List Char → Bool
  | '*' :: '*' :: _ => true
  | _ :: rest => hasTwoStars rest
  | [] => false

/--
Read one part of a search pattern. Two stars among other characters mean nothing.
-/
def PatternPart.ofString? (s : String) : Option PatternPart :=
  if s == "" then some .here
  else if s == "**" then some .folders
  else if hasTwoStars s.toList then none
  else if s.toList.any fun c => c == '*' || c == '?' || c == '[' then some (.wildcard s)
  else some (.name s)

/--
The parts of a relative search pattern. A slash at the end asks for folders.
-/
def patternParts? (pattern : String) : Option (List PatternPart) :=
  let parts := (Path.ofString pattern).parts
  let parts := if pattern.toList.getLast? == some '/' then parts ++ [""] else parts
  parts.mapM PatternPart.ofString?

namespace Store

/--
Whether the path leads to a folder.
-/
def folderParts? (s : Store) (p : Path) : Option (List String) :=
  match s.locate p.toString with
  | .folder parts => some parts
  | _ => none

/--
What stands in the folder that a path leads to, and whether each is a folder.
-/
def children (s : Store) (p : Path) : List (Path × String × Bool) :=
  match s.folderParts? p with
  | some parts => (s.list parts).map fun (name, isFolder) => (p.child name, name, isFolder)
  | none => []

/--
A path and all folders below it, each before those in it. No way in the store is longer than its
entries are many.
-/
def foldersFrom (s : Store) (p : Path) : List Path :=
  go (s.entries.length + 1) p
where
  go : Nat → Path → List Path
    | 0, p => [p]
    | fuel + 1, p =>
      p :: ((s.children p).filter fun c => c.2.2).flatMap fun c => go fuel c.1

/--
What the parts of a search pattern find below a path. All parts but the last stand for folders.
-/
def select (s : Store) : List PatternPart → Path → List Path
  | [], p => [p]
  | part :: rest, p =>
    match part with
    | .here => [p]
    | .folders => ((s.foldersFrom p).flatMap (s.select rest)).eraseDups
    | .wildcard pattern =>
      let found := (s.children p).filter fun c =>
        (rest.isEmpty || c.2.2) && Text.matchesWildcard pattern.toList c.2.1.toList
      found.flatMap fun c => s.select rest c.1
    | .name name =>
      let c := p.child name
      let isFound := if rest.isEmpty then s.exists? c.toString else (s.folderParts? c).isSome
      if isFound then s.select rest c else []

/--
What a search pattern finds below a path. Below a file there is nothing.
-/
def glob (s : Store) (p : Path) (parts : List PatternPart) : List Path :=
  match s.folderParts? p with
  | some _ => s.select parts p
  | none => []

end Store

end CodeAudit.Files
