import CodeAudit.Unicode.Names.Aliases
import CodeAudit.Unicode.Names.Alphabets
import CodeAudit.Unicode.Names.Ancient
import CodeAudit.Unicode.Names.EastAsia
import CodeAudit.Unicode.Names.Pictures
import CodeAudit.Unicode.Names.Symbols
import CodeAudit.Unicode.RangeTable

/-!
This module contains the names of characters. Most names are listed; those of ideographs and of Hangul
syllables follow from the code point.
-/

namespace CodeAudit.Unicode

namespace NameTable

/--
The entries of a table, divided by semicolons and line ends.
-/
def entries (text : String) : List (List Char) :=
  (text.toList.splitOnP fun c => c == ';' || c == '\n').filter fun entry => !entry.isEmpty

/--
The words of a name.
-/
def nameWords (cs : List Char) : List (List Char) :=
  if cs.isEmpty then [] else cs.splitOn ' '

/--
Look for a name among the entries of a table. An entry with an equals sign sets the code point of the
next name. Any other entry is a name: a digit says how many words it shares with the name before, and
the other words follow. Names without a code point of their own have the one after that of the name
before.
-/
def find? (name : List (List Char)) (code : Nat) (before : List (List Char)) :
    List (List Char) → Option Nat
  | [] => none
  | ('=' :: digits) :: rest => find? name (hexNumber digits) before rest
  | (shared :: others) :: rest =>
    let words := before.take (hexDigit shared) ++ nameWords others
    if words == name then some code else find? name (code + 1) words rest
  | [] :: rest => find? name code before rest

end NameTable

/--
The tables of names.
-/
def nameTables : List String :=
  [alphabetNames, symbolNames, eastAsianNames, ancientNames, pictureNames, aliasNames]

/--
The code point of a listed name.
-/
def listedCode? (name : List Char) : Option Nat :=
  nameTables.findSome? fun table =>
    NameTable.find? (NameTable.nameWords name) 0 [] (NameTable.entries table)

/-! ### Ideographs -/

/--
The number that upper case hexadecimal digits denote.
-/
def upperHexNumber? (cs : List Char) : Option Nat :=
  if !cs.isEmpty && cs.all fun c => c.isDigit || ('A' ≤ c && c ≤ 'F') then
    some (hexNumber (cs.map Char.toLower))
  else none

/--
What is left of a text after the part it starts with.
-/
def after? (start : String) (cs : List Char) : Option (List Char) :=
  if start.toList.isPrefixOf cs then some (cs.drop start.length) else none

/--
The code points of unified ideographs.
-/
def unifiedIdeographs : CodeSet := CodeSet.ofText
  "3400-4dbf 4e00-9fff 20000-2a6df 2a700-2b738 2b740-2b81d 2b820-2cea1 2ceb0-2ebe0 30000-3134a"

/--
The unified ideograph with the given digits at the end of its name.
-/
def unifiedIdeograph? (digits : List Char) : Option Nat := do
  let n ← upperHexNumber? digits
  if (digits.length = 4 || digits.length = 5) && (unifiedIdeographs.find? n).isSome then some n
  else none

/--
Characters whose names end in the digits of their code points.
-/
def numberedNames : List (String × CodeSet) :=
  [("CJK COMPATIBILITY IDEOGRAPH-", CodeSet.ofText "f900-fa6d fa70-fad9 2f800-2fa1d"),
    ("KHITAN SMALL SCRIPT CHARACTER-", CodeSet.ofText "18b00-18cd5"),
    ("NUSHU CHARACTER-", CodeSet.ofText "1b170-1b2fb")]

/--
The code point of a name that ends in its digits.
-/
def numberedCode? (name : List Char) : Option Nat :=
  numberedNames.findSome? fun (start, codes) => do
    let digits ← after? start name
    let n ← upperHexNumber? digits
    if digits.head? != some '0' && (codes.find? n).isSome then some n else none

/-! ### Hangul syllables -/

/--
The names of leading consonants.
-/
def leadingNames : List String :=
  ["G", "GG", "N", "D", "DD", "R", "M", "B", "BB", "S", "SS", "", "J", "JJ", "C", "K", "T", "P", "H"]

/--
The names of vowels.
-/
def vowelNames : List String :=
  ["A", "AE", "YA", "YAE", "EO", "E", "YEO", "YE", "O", "WA", "WAE", "OE", "YO", "U", "WEO", "WE", "WI",
    "YU", "EU", "YI", "I"]

/--
The names of trailing consonants.
-/
def trailingNames : List String :=
  ["", "G", "GG", "GS", "N", "NJ", "NH", "D", "L", "LG", "LM", "LB", "LS", "LT", "LP", "LH", "M", "B",
    "BS", "S", "SS", "NG", "J", "C", "K", "T", "P", "H"]

/--
The place of the longest name in a list that a text starts with, and what is left.
-/
def longestName? (names : List String) (cs : List Char) : Option (Nat × List Char) :=
  let fitting := names.zipIdx.filter fun (name, _) => name.toList.isPrefixOf cs
  let best := fitting.foldl
    (fun (best : Option (String × Nat)) entry =>
      match best with
      | some b => if b.1.length < entry.1.length then some entry else best
      | none => some entry)
    none
  best.map fun (name, place) => (place, cs.drop name.length)

/--
The Hangul syllable whose name ends in the given letters.
-/
def hangulSyllable? (letters : List Char) : Option Nat := do
  let (leading, rest) ← longestName? leadingNames letters
  let (vowel, rest) ← longestName? vowelNames rest
  let (trailing, rest) ← longestName? trailingNames rest
  if rest.isEmpty then
    some (0xac00 + (leading * vowelNames.length + vowel) * trailingNames.length + trailing)
  else none

/--
The code point that a name denotes. Listed names may be in any mix of cases.
-/
def characterNamed? (name : List Char) : Option Nat :=
  match after? "HANGUL SYLLABLE " name, after? "CJK UNIFIED IDEOGRAPH-" name with
  | some letters, _ => hangulSyllable? letters
  | none, some digits => unifiedIdeograph? digits
  | none, none =>
    let upper := name.map Char.toUpper
    (listedCode? upper).orElse fun _ => numberedCode? upper

end CodeAudit.Unicode
