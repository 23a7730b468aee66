import CodeAudit.Syntax.Tree
import CodeAudit.Text.Lines

/-!
This module contains the documentation of a definition: the text that stands first in its body, freed
from the indentation of the source.
-/

namespace CodeAudit.Syntax.Docstring

/--
Replace each tab by blanks up to the next column that is a multiple of eight.
-/
def expandTabs (column : Nat) : List Char → List Char
  | [] => []
  | c :: rest =>
    if c == '\t' then
      let width := 8 - column % 8
      List.replicate width ' ' ++ expandTabs (column + width) rest
    else if c == '\n' || c == '\r' then c :: expandTabs 0 rest
    else c :: expandTabs (column + 1) rest

/--
How far a line is indented, if anything stands on it.
-/
def indent? (line : List Char) : Option Nat :=
  let content := Text.stripStart line
  if content.isEmpty then none else some (line.length - content.length)

/--
The text without the indentation that its lines after the first have in common, without blanks at the
start of the first line, and without empty lines at its ends.
-/
def clean (s : String) : String :=
  match Text.lines (expandTabs 0 s.toList) with
  | [] => ""
  | first :: rest =>
    let margin := ((rest.filterMap indent?).min?).getD 0
    let lines := Text.stripStart first :: rest.map (·.drop margin)
    let lines := (lines.reverse.dropWhile (·.isEmpty)).reverse.dropWhile (·.isEmpty)
    String.ofList (List.intercalate ['\n'] lines)

/--
The documentation of a definition with the given body.
-/
def ofBody? : List Stmt → Option String
  | .expr (.text s) :: _ => some (clean s)
  | _ => none

end CodeAudit.Syntax.Docstring
