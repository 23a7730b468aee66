import CodeAudit.Text.Blank

/-!
This module contains the division of a text into lines and the counts of lines by kind.
-/

namespace CodeAudit.Text

/--
The lines of a text. Only a line feed divides lines, and a text that ends in one has an empty last
line.
-/
def lines (cs : List Char) : List (List Char) :=
  cs.splitOn '\n'

/--
Read every kind of line end as a line feed.
-/
def unifyLineEnds : List Char → List Char
  | '\r' :: '\n' :: rest => '\n' :: unifyLineEnds rest
  | '\r' :: rest => '\n' :: unifyLineEnds rest
  | c :: rest => c :: unifyLineEnds rest
  | [] => []

/--
How many lines a text has, in all and by kind.
-/
structure LineCounts where
  total : Int := 0
  code : Int := 0
  comment : Int := 0
  blank : Int := 0
  deriving DecidableEq

/--
The kind of a line.
-/
inductive LineKind where
  | code
  | comment
  | blank
  deriving DecidableEq

/--
Whether nothing but blanks stands on the line.
-/
def isBlankLine (line : List Char) : Bool :=
  (strip line).isEmpty

end CodeAudit.Text
