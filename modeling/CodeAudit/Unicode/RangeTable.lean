/-!
This module contains tables over code points. A table is a list of inclusive ranges in ascending
order, each with a value; it is written as text with hexadecimal numbers and searched by bisection.
-/

namespace CodeAudit.Unicode

/--
The value of a lower case hexadecimal digit.
-/
def hexDigit (c : Char) : Nat :=
  if c.isDigit then c.toNat - '0'.toNat else c.toNat - 'a'.toNat + 10

/--
The number that a list of lower case hexadecimal digits denotes.
-/
def hexNumber (cs : List Char) : Nat :=
  cs.foldl (fun n c => 16 * n + hexDigit c) 0

/--
A table from ranges of code points to values. The entries are in ascending order and do not overlap.
-/
structure RangeTable (α : Type) where
  /-- First code point, last code point and value of each range. -/
  entries : Array (Nat × Nat × α)

namespace RangeTable

variable {α : Type}

/--
The range that holds `n`: its first code point and its value.
-/
def find? (t : RangeTable α) (n : Nat) : Option (Nat × α) :=
  go 0 t.entries.size
where
  go (lo hi : Nat) : Option (Nat × α) :=
    if lo < hi then
      let mid := (lo + hi) / 2
      match t.entries[mid]? with
      | none => none
      | some (first, last, a) =>
        if n < first then go lo mid
        else if last < n then go (mid + 1) hi
        else some (first, a)
    else none
  termination_by hi - lo

/--
Read a range such as `41-5a` or a single code point such as `b5`.
-/
def parseRange (cs : List Char) : Nat × Nat :=
  match cs.splitOn '-' with
  | [a, b] => (hexNumber a, hexNumber b)
  | _ => (hexNumber cs, hexNumber cs)

/--
The words of a text, divided by spaces and line ends.
-/
def words (cs : List Char) : List (List Char) :=
  (cs.splitBy fun a b => !a.isWhitespace && !b.isWhitespace).filter
    fun word => !word.all (·.isWhitespace)

/--
Read the entries of a table from the words of a text. A word is a range, and where it has a value, an
equals sign and the text that `value` reads.
-/
def parseEntries (value : List Char → α) (cs : List Char) : List (Nat × Nat × α) :=
  (words cs).map fun word =>
    let key := word.takeWhile (· != '=')
    let (first, last) := parseRange key
    (first, last, value (word.drop (key.length + 1)))

/--
Read a table from the words of a text.
-/
def ofText (value : List Char → α) (text : String) : RangeTable α :=
  ⟨(parseEntries value text.toList).toArray⟩

end RangeTable

/--
A set of code points.
-/
abbrev CodeSet := RangeTable Unit

/--
Read a set of code points from the words of a text.
-/
def CodeSet.ofText (text : String) : CodeSet :=
  RangeTable.ofText (fun _ => ()) text

/--
Whether the set holds `c`.
-/
def CodeSet.contains (s : CodeSet) (c : Char) : Bool :=
  (s.find? c.toNat).isSome

end CodeAudit.Unicode
