/-!
This module contains patterns for the names of files. A star stands for any text, a question mark for
any character, and brackets for one character of a set. Nothing is special about a slash or a dot.
-/

namespace CodeAudit.Text

namespace Wildcard

/--
A set of characters: all characters in some ranges, or all others.
-/
structure CharSet where
  negated : Bool
  ranges : List (Char × Char)

/--
Whether the set holds `c`.
-/
def CharSet.contains (s : CharSet) (c : Char) : Bool :=
  (s.ranges.any fun range => range.1 ≤ c && c ≤ range.2) != s.negated

/--
One part of a pattern.
-/
inductive Item where
  | star
  | any
  | literal (c : Char)
  | oneOf (s : CharSet)

/--
Whether an item that stands for one character stands for `c`.
-/
def Item.accepts : Item → Char → Bool
  | .star, _ => false
  | .any, _ => true
  | .literal a, c => a == c
  | .oneOf s, c => s.contains c

/-! ### Sets -/

/--
Divide what stands between brackets at its hyphens. A hyphen among the first `held` characters divides
nothing, nor does one of the two characters after a hyphen that does.
-/
def chunks (held : Nat) (cs : List Char) : List (List Char) :=
  go held [] cs
where
  /-- `acc` holds the current chunk, the last character first. -/
  go : Nat → List Char → List Char → List (List Char)
    | _, acc, [] => [acc.reverse]
    | held + 1, acc, c :: rest => go held (c :: acc) rest
    | 0, acc, c :: rest =>
      if c == '-' then acc.reverse :: go 2 [] rest else go 0 (c :: acc) rest

/--
A hyphen at the end divides nothing either.
-/
def closeChunks : List (List Char) → List (List Char)
  | [a, []] => [a ++ ['-']]
  | a :: rest => a :: closeChunks rest
  | [] => []

/--
Join two chunks whose characters at the hyphen are in the wrong order for a range, without these two.
-/
def dropEmptyRanges : List (List Char) → List (List Char)
  | [] => []
  | a :: rest =>
    match dropEmptyRanges rest with
    | [] => [a]
    | b :: others =>
      match a.getLast?, b.head? with
      | some x, some y => if y < x then (a.dropLast ++ b.tail) :: others else a :: b :: others
      | _, _ => a :: b :: others

/--
A character between brackets, or the hyphen of a range.
-/
inductive SetToken where
  | char (c : Char)
  | range

/--
The ranges that the tokens stand for. A hyphen of a range with nothing before it is a character.
-/
def rangesOf : List SetToken → List (Char × Char)
  | .char a :: .range :: .char b :: rest => (a, b) :: rangesOf rest
  | .char a :: rest => (a, a) :: rangesOf rest
  | .range :: rest => ('-', '-') :: rangesOf rest
  | [] => []

/--
The set of what stands between brackets. An exclamation mark at the start negates it.
-/
def charSet (cs : List Char) : CharSet :=
  let held := if cs.head? == some '!' then 2 else 1
  let parts := dropEmptyRanges (closeChunks (chunks held cs))
  match List.intercalate [SetToken.range] (parts.map fun part => part.map SetToken.char) with
  | .char '!' :: rest => ⟨true, rangesOf rest⟩
  | tokens => ⟨false, rangesOf tokens⟩

/--
Divide the text after an opening bracket at the bracket that closes it. The first character, after an
exclamation mark if there is one, does not close it.
-/
def bracketed? (cs : List Char) : Option (List Char × List Char) :=
  let held := if cs.head? == some '!' then 2 else 1
  match (cs.drop held).span (· != ']') with
  | (inner, _ :: rest) => some (cs.take held ++ inner, rest)
  | (_, []) => none

/-! ### Patterns -/

/--
The items of a pattern. A bracket that is never closed stands for itself.
-/
def items (pattern : List Char) : List Item :=
  go 0 pattern
where
  /-- `skip` characters belong to the item before. -/
  go : Nat → List Char → List Item
    | _, [] => []
    | skip + 1, _ :: rest => go skip rest
    | 0, c :: rest =>
      match c with
      | '*' => if rest.head? == some '*' then go 0 rest else .star :: go 0 rest
      | '?' => .any :: go 0 rest
      | '[' =>
        match bracketed? rest with
        | some (inner, _) => .oneOf (charSet inner) :: go (inner.length + 1) rest
        | none => .literal '[' :: go 0 rest
      | _ => .literal c :: go 0 rest

/--
Whether `p` holds of what is left of a text after some of its first characters.
-/
def anyRest (p : List Char → Bool) : List Char → Bool
  | [] => p []
  | c :: cs => p (c :: cs) || anyRest p cs

/--
Whether the items stand for the whole text.
-/
def covers : List Item → List Char → Bool
  | [], cs => cs.isEmpty
  | .star :: rest, cs => anyRest (covers rest) cs
  | _ :: _, [] => false
  | item :: rest, c :: cs => item.accepts c && covers rest cs

end Wildcard

/--
Whether the pattern stands for the whole text.
-/
def matchesWildcard (pattern text : List Char) : Bool :=
  Wildcard.covers (Wildcard.items pattern) text

end CodeAudit.Text
