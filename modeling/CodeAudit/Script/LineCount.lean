import CodeAudit.Text.Lines
import CodeAudit.Text.Occurrence

/-!
This module contains the counts of the lines of a script. A line with a mark of a block comment is a
comment, and so are the lines after one that opens a block up to one that closes it.
-/

namespace CodeAudit.Script

open Text

/-- Whether the line opens a block comment. -/
def opensBlock (line : List Char) : Bool := occursIn ['/', '*'] (strip line)

/-- Whether the line closes a block comment. -/
def closesBlock (line : List Char) : Bool := occursIn ['*', '/'] (strip line)

/-- Whether the line is a comment of its own. -/
def isLineComment (line : List Char) : Bool := ['/', '/'].isPrefixOf (strip line)

/--
The kind of a line, and whether a block comment is open after it. A line that opens a block leaves it
open, also if it closes one.
-/
def lineStep (inBlock : Bool) (line : List Char) : LineKind × Bool :=
  if opensBlock line then (.comment, true)
  else if closesBlock line then (.comment, false)
  else if inBlock then (.comment, true)
  else if isBlankLine line then (.blank, false)
  else if isLineComment line then (.comment, false)
  else (.code, false)

/--
The kinds of lines one after the other.
-/
def lineKinds : Bool → List (List Char) → List LineKind
  | _, [] => []
  | inBlock, line :: rest =>
    let (kind, inBlock) := lineStep inBlock line
    kind :: lineKinds inBlock rest

/--
The counts of some lines.
-/
def countLines (lines : List (List Char)) : LineCounts :=
  let kinds := lineKinds false lines
  { total := lines.length
    code := kinds.count .code
    comment := kinds.count .comment
    blank := kinds.count .blank }

/--
The counts of the lines of a script.
-/
def lineCounts (code : List Char) : LineCounts :=
  countLines (lines code)

end CodeAudit.Script
