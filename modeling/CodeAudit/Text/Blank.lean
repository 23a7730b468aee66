/-!
This module contains blank characters, in the sense of Unicode white space, and what is left of a text
without those at its ends.
-/

namespace CodeAudit.Text

/--
Whether `c` is blank: white space of Unicode, or one of the four separators of ASCII.
-/
def isBlank (c : Char) : Bool :=
  let n := c.toNat
  (9 ≤ n && n ≤ 13) || (0x1c ≤ n && n ≤ 0x20) || n == 0x85 || n == 0xa0 || n == 0x1680 ||
    (0x2000 ≤ n && n ≤ 0x200a) || n == 0x2028 || n == 0x2029 || n == 0x202f || n == 0x205f ||
    n == 0x3000

/--
The text without the blanks at its start.
-/
def stripStart (cs : List Char) : List Char :=
  cs.dropWhile isBlank

/--
The text without the blanks at its end.
-/
def stripEnd (cs : List Char) : List Char :=
  (cs.reverse.dropWhile isBlank).reverse

/--
The text without the blanks at its ends.
-/
def strip (cs : List Char) : List Char :=
  stripEnd (stripStart cs)

end CodeAudit.Text
