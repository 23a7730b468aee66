import CodeAudit.Data.Decimal
import CodeAudit.Data.ReadError
import CodeAudit.Data.Value
import CodeAudit.Syntax.Literal

/-!
This module contains the reader for TOML text. Of dates and times it checks that they exist and keeps
their kind.
-/

namespace CodeAudit.Toml

/--
Read from the start of a text, and give what follows.
-/
abbrev Reader (α : Type) := List Char → Except ReadError (α × List Char)

/--
The names that lead from one table to another.
-/
abbrev Key := List String

/-! ### Blanks and comments -/

/--
Drop the blanks at the start.
-/
def skipBlanks (cs : List Char) : List Char :=
  cs.dropWhile fun c => c == ' ' || c == '\t'

/--
Drop the blanks and line ends at the start.
-/
def skipSpace (cs : List Char) : List Char :=
  cs.dropWhile fun c => c == ' ' || c == '\t' || c == '\n'

/--
Whether a character may not stand in a string or a comment of one line.
-/
def isControl (c : Char) : Bool :=
  (c.toNat < 32 && c != '\t') || c.toNat = 127

/--
Drop a comment at the start, up to the end of its line.
-/
def skipComment (cs : List Char) : Except ReadError (List Char) :=
  match cs with
  | '#' :: rest =>
    let text := rest.takeWhile (· != '\n')
    if text.any isControl then .error .malformed else .ok (rest.drop text.length)
  | _ => .ok cs

/--
Drop blanks, line ends and comments at the start.
-/
def skipFiller (cs : List Char) : Except ReadError (List Char) :=
  go (cs.length + 1) cs
where
  go : Nat → List Char → Except ReadError (List Char)
    | 0, cs => .ok cs
    | fuel + 1, cs => do
      let rest ← skipComment (skipSpace cs)
      if rest.length = cs.length then return rest else go fuel rest

/-! ### Strings -/

/--
The escapes of one letter.
-/
def escapes : List (Char × Char) :=
  [('b', '\x08'), ('t', '\t'), ('n', '\n'), ('f', '\x0c'), ('r', '\r'), ('"', '"'), ('\\', '\\')]

/--
A character given by its hexadecimal code point.
-/
def hexChar (count : Nat) : Reader Char := fun cs =>
  match Syntax.Literal.hexDigits? count cs with
  | some (n, rest) => if n.isValidChar then .ok (Char.ofNat n, rest) else .error .malformed
  | none => .error .malformed

/--
What an escape stands for, after its backslash. In a string of many lines a backslash before a line
end takes away the blanks and line ends that follow.
-/
def escape (manyLines : Bool) : Reader (List Char) := fun cs =>
  match cs with
  | [] => .error .malformed
  | 'u' :: rest => (hexChar 4 rest).map fun (c, rest) => ([c], rest)
  | 'U' :: rest => (hexChar 8 rest).map fun (c, rest) => ([c], rest)
  | c :: rest =>
    if manyLines && (c == ' ' || c == '\t' || c == '\n') then
      match skipBlanks cs with
      | [] => .ok ([], [])
      | '\n' :: rest => .ok ([], skipSpace rest)
      | _ => .error .malformed
    else
      match escapes.lookup c with
      | some d => .ok ([d], rest)
      | none => .error .malformed

/--
A string in double quotes, after the quotes that open it.
-/
def basicString (manyLines : Bool) : Reader (List Char) := fun cs =>
  go (cs.length + 1) cs
where
  go : Nat → List Char → Except ReadError (List Char × List Char)
    | 0, _ => .error .malformed
    | _, [] => .error .malformed
    | fuel + 1, c :: rest =>
      if c == '"' then
        if !manyLines then .ok ([], rest)
        else
          match rest with
          | '"' :: '"' :: rest => .ok ([], rest)
          | _ => (go fuel rest).map fun (s, rest) => (c :: s, rest)
      else if c == '\\' then do
        let (s, rest) ← escape manyLines rest
        let (t, rest) ← go fuel rest
        return (s ++ t, rest)
      else if isControl c && !(manyLines && c == '\n') then .error .malformed
      else (go fuel rest).map fun (s, rest) => (c :: s, rest)

/--
A string in single quotes, after the quote that opens it.
-/
def literalString : Reader (List Char) := fun cs =>
  let text := cs.takeWhile (· != '\'')
  match cs.drop text.length with
  | _ :: rest => if text.any isControl then .error .malformed else .ok (text, rest)
  | [] => .error .malformed

/--
A string in three single quotes, after the quotes that open it.
-/
def literalLines : Reader (List Char)
  | [] => .error .malformed
  | '\'' :: '\'' :: '\'' :: rest => .ok ([], rest)
  | c :: rest =>
    if isControl c && c != '\n' then .error .malformed
    else (literalLines rest).map fun (s, rest) => (c :: s, rest)

/--
A string of many lines, after the quotes that open it. Up to two more quotes before those that close
it belong to it.
-/
def lineString (quote : Char) : Reader (List Char) := fun cs => do
  let start := match cs with
    | '\n' :: rest => rest
    | _ => cs
  let (s, rest) ← if quote == '\'' then literalLines start else basicString true start
  let extra := (rest.take 2).takeWhile (· == quote)
  return (s ++ extra, rest.drop extra.length)

/-! ### Keys -/

/--
Whether a character may stand in a name without quotes.
-/
def isBareChar (c : Char) : Bool :=
  c.isAlphanum || c == '-' || c == '_'

/--
One name of a key.
-/
def keyPart : Reader String := fun cs =>
  match cs with
  | '"' :: rest => (basicString false rest).map fun (s, rest) => (String.ofList s, rest)
  | '\'' :: rest => (literalString rest).map fun (s, rest) => (String.ofList s, rest)
  | _ =>
    let name := cs.takeWhile isBareChar
    if name.isEmpty then .error .malformed
    else .ok (String.ofList name, cs.drop name.length)

/--
A key: names with dots between them, and blanks around the dots.
-/
def key : Reader Key := fun cs =>
  go (cs.length + 1) cs
where
  go : Nat → List Char → Except ReadError (Key × List Char)
    | 0, _ => .error .malformed
    | fuel + 1, cs => do
      let (name, rest) ← keyPart cs
      match skipBlanks rest with
      | '.' :: rest =>
        let (names, rest) ← go fuel (skipBlanks rest)
        return (name :: names, rest)
      | rest => return ([name], rest)

/-! ### Dates and times -/

/--
The number that exactly `count` digits denote, and what follows.
-/
def fixedDigits? (count : Nat) (cs : List Char) : Option (Nat × List Char) :=
  let ds := cs.take count
  if ds.length = count && ds.all Char.isDigit then
    some (ds.foldl (fun n c => 10 * n + (c.toNat - '0'.toNat)) 0, cs.drop count)
  else none

/--
Two digits for a number up to `most`, after a given character.
-/
def twoDigits? (before : Char) (most : Nat) (cs : List Char) : Option (Nat × List Char) :=
  match cs with
  | c :: rest =>
    if c == before then
      match fixedDigits? 2 rest with
      | some (n, rest) => if n ≤ most then some (n, rest) else none
      | none => none
    else none
  | [] => none

/--
What follows a time of the day at the start.
-/
def afterTime? (cs : List Char) : Option (List Char) := do
  let (hour, rest) ← fixedDigits? 2 cs
  guard (hour ≤ 23)
  let (_, rest) ← twoDigits? ':' 59 rest
  let (_, rest) ← twoDigits? ':' 59 rest
  match rest with
  | '.' :: fraction =>
    let ds := fraction.takeWhile Char.isDigit
    return if ds.isEmpty then rest else fraction.drop ds.length
  | _ => return rest

/--
What follows an offset from universal time, if there is one at the start.
-/
def afterOffset (cs : List Char) : List Char :=
  match cs with
  | 'Z' :: rest => rest
  | 'z' :: rest => rest
  | sign :: rest =>
    if sign == '+' || sign == '-' then
      match twoDigits? sign 23 (sign :: rest) with
      | some (_, rest) => ((twoDigits? ':' 59 rest).map (·.2)).getD cs
      | none => cs
    else cs
  | [] => []

/--
How many days a month has.
-/
def daysOf (year month : Nat) : Nat :=
  let isLeap := year % 4 = 0 && (year % 100 != 0 || year % 400 = 0)
  match month with
  | 2 => if isLeap then 29 else 28
  | 4 => 30
  | 6 => 30
  | 9 => 30
  | 11 => 30
  | _ => 31

/--
A date in its written form, and what follows.
-/
def date? (cs : List Char) : Option ((Nat × Nat × Nat) × List Char) := do
  let (year, rest) ← fixedDigits? 4 cs
  let (month, rest) ← twoDigits? '-' 12 rest
  let (day, rest) ← twoDigits? '-' 31 rest
  guard (1 ≤ month && 1 ≤ day)
  return ((year, month, day), rest)

/--
A date, perhaps with a time, or a time at the start, if there is one. A date must exist.
-/
def moment? (cs : List Char) : Option (Except ReadError (Value × List Char)) :=
  match date? cs with
  | some ((year, month, day), rest) =>
    let afterClock := match rest with
      | t :: clock => if t == 'T' || t == 't' || t == ' ' then afterTime? clock else none
      | [] => none
    if year = 0 || daysOf year month < day then some (.error .malformed)
    else
      match afterClock with
      | some rest => some (.ok (.moment .dateTime, afterOffset rest))
      | none => some (.ok (.moment .date, rest))
  | none => (afterTime? cs).map fun rest => .ok (.moment .time, rest)

/-! ### Numbers -/

/--
Digits with single underscores between them, and what follows. The underscores are left out.
-/
def groupedDigits (isDigit : Char → Bool) : List Char → List Char × List Char
  | [] => ([], [])
  | c :: rest =>
    if isDigit c then
      let (ds, after) := groupedDigits isDigit rest
      (c :: ds, after)
    else
      match c, rest with
      | '_', d :: _ =>
        if isDigit d then groupedDigits isDigit rest else ([], c :: rest)
      | _, _ => ([], c :: rest)

/--
Digits that start with a digit, and what follows.
-/
def digits? (isDigit : Char → Bool) (cs : List Char) : Option (List Char × List Char) :=
  match cs with
  | c :: _ => if isDigit c then some (groupedDigits isDigit cs) else none
  | [] => none

/--
The number that digits denote.
-/
def digitsValue (base : Nat) (ds : List Char) : Nat :=
  ds.foldl (fun n c => base * n + (Syntax.Literal.hexValue? c).getD 0) 0

/--
An integer with a mark for its base, if there is one.
-/
def basedInteger? (cs : List Char) : Option (Value × List Char) :=
  let read (base : Nat) (isDigit : Char → Bool) (cs : List Char) : Option (Value × List Char) :=
    (digits? isDigit cs).map fun (ds, rest) => (.int (digitsValue base ds), rest)
  match cs with
  | '0' :: 'x' :: rest => read 16 (fun c => (Syntax.Literal.hexValue? c).isSome) rest
  | '0' :: 'b' :: rest => read 2 (fun c => c == '0' || c == '1') rest
  | '0' :: 'o' :: rest => read 8 (fun c => '0' ≤ c && c ≤ '7') rest
  | _ => none

/--
The whole part of a decimal number, and what follows. A zero at its start is all of it.
-/
def wholeDigits? (cs : List Char) : Option (List Char × List Char) :=
  match cs with
  | '0' :: rest => some (['0'], rest)
  | _ => digits? Char.isDigit cs

/--
The fraction of a decimal number, which may be missing.
-/
def fraction (cs : List Char) : List Char × List Char :=
  match cs with
  | '.' :: rest => (digits? Char.isDigit rest).getD ([], cs)
  | _ => ([], cs)

/--
The exponent of a decimal number, which may be missing.
-/
def exponent? (cs : List Char) : Option (Int × List Char) :=
  match cs with
  | e :: rest =>
    if e == 'e' || e == 'E' then
      let (negative, rest) := match rest with
        | '-' :: rest => (true, rest)
        | '+' :: rest => (false, rest)
        | _ => (false, rest)
      (digits? Char.isDigit rest).map fun (ds, rest) =>
        let n : Int := digitsValue 10 ds
        (if negative then -n else n, rest)
    else none
  | [] => none

/--
A sign at the start, if there is one, and what follows.
-/
def sign (cs : List Char) : Bool × List Char :=
  match cs with
  | '-' :: rest => (true, rest)
  | '+' :: rest => (false, rest)
  | _ => (false, cs)

/--
A decimal number, if there is one.
-/
def decimal? (cs : List Char) : Option (Except ReadError (Value × List Char)) := do
  let (negative, unsigned) := sign cs
  let (whole, rest) ← wholeDigits? unsigned
  let (places, rest) := fraction rest
  match places, exponent? rest with
  | [], none =>
    if maxDigits < whole.length then return .error (.tooManyDigits whole.length)
    let n : Int := digitsValue 10 whole
    return .ok (.int (if negative then -n else n), rest)
  | places, found =>
    let (e, rest) := found.getD (0, rest)
    let x := floatOfDecimal negative (digitsValue 10 (whole ++ places)) (e - places.length)
    return .ok (.float x, rest)

/--
A word for an infinity or for what is no number, if there is one.
-/
def specialFloat? (cs : List Char) : Option (Value × List Char) :=
  let (negative, rest) := sign cs
  match rest with
  | 'i' :: 'n' :: 'f' :: rest => some (.float (if negative then -1.0 / 0.0 else 1.0 / 0.0), rest)
  | 'n' :: 'a' :: 'n' :: rest => some (.float (0.0 / 0.0), rest)
  | _ => none

/-! ### Tables -/

/--
The fields of a table.
-/
abbrev Fields := List (String × Value)

/--
Change the table behind a key, and make the tables on the way that are not there yet. If `throughLists`
holds, the way goes through the last table of a list.
-/
def Fields.change? (throughLists : Bool) (change : Fields → Option Fields) :
    Key → Fields → Option Fields
  | [], t => change t
  | name :: names, t =>
    match Table.get? t name with
    | none => (change? throughLists change names []).map fun u => Table.put t name (.object u)
    | some (.object u) => (change? throughLists change names u).map fun u => Table.put t name (.object u)
    | some (.list vs) =>
      match throughLists, vs.getLast? with
      | true, some (.object u) =>
        (change? throughLists change names u).map fun u =>
          Table.put t name (.list (vs.dropLast ++ [.object u]))
      | _, _ => none
    | some _ => none

/--
Add a field that is not there yet.
-/
def Fields.add? (name : String) (v : Value) (t : Fields) : Option Fields :=
  if Table.has t name then none else some (Table.put t name v)

/--
Add an empty table to the list behind a name.
-/
def Fields.append? (name : String) (t : Fields) : Option Fields :=
  match Table.get? t name with
  | none => some (Table.put t name (.list [.object []]))
  | some (.list vs) => some (Table.put t name (.list (vs ++ [.object []])))
  | some _ => none

/--
Whether a value holds others.
-/
def isContainer : Value → Bool
  | .list _ => true
  | .object _ => true
  | _ => false

/-! ### Values -/

/--
Turn a failed change into an error.
-/
def orMalformed {α : Type} : Option α → Except ReadError α
  | some a => .ok a
  | none => .error .malformed

/--
A key, the sign of equality and a value.
-/
def pair (value : Reader Value) : Reader (Key × Value) := fun cs => do
  let (k, rest) ← key cs
  match rest with
  | '=' :: rest =>
    let (v, rest) ← value (skipBlanks rest)
    return ((k, v), rest)
  | _ => throw .malformed

/--
The members of a list, after the bracket that opens it or a comma.
-/
def members (value : Reader Value) : Nat → Reader (List Value)
  | 0, _ => .error .malformed
  | fuel + 1, cs => do
    match ← skipFiller cs with
    | ']' :: rest => return ([], rest)
    | cs =>
      let (v, rest) ← value cs
      match ← skipFiller rest with
      | ']' :: rest => return ([v], rest)
      | ',' :: rest =>
        let (vs, rest) ← members value fuel rest
        return (v :: vs, rest)
      | _ => throw .malformed

/--
The fields of a table on one line, from the next one on. A list or table in it is closed: nothing can
be added under its key.
-/
def inlineFields (value : Reader Value) : Nat → List Key → Fields → Reader Fields
  | 0, _, _, _ => .error .malformed
  | fuel + 1, closed, t, cs => do
    let ((k, v), rest) ← pair value cs
    if closed.any (·.isPrefixOf k) then throw .malformed
    let t ← orMalformed (t.change? false (Fields.add? (k.getLastD "") v) k.dropLast)
    match skipBlanks rest with
    | '\x7d' :: rest => return (t, rest)
    | ',' :: rest =>
      inlineFields value fuel (if isContainer v then k :: closed else closed) t (skipBlanks rest)
    | _ => throw .malformed

/--
A value at the start of the text.
-/
def value : Nat → Reader Value
  | 0, _ => .error .malformed
  | fuel + 1, cs =>
    match cs with
    | '"' :: '"' :: '"' :: rest =>
      (lineString '"' rest).map fun (s, rest) => (.text (String.ofList s), rest)
    | '"' :: rest => (basicString false rest).map fun (s, rest) => (.text (String.ofList s), rest)
    | '\'' :: '\'' :: '\'' :: rest =>
      (lineString '\'' rest).map fun (s, rest) => (.text (String.ofList s), rest)
    | '\'' :: rest => (literalString rest).map fun (s, rest) => (.text (String.ofList s), rest)
    | 't' :: 'r' :: 'u' :: 'e' :: rest => .ok (.bool true, rest)
    | 'f' :: 'a' :: 'l' :: 's' :: 'e' :: rest => .ok (.bool false, rest)
    | '[' :: rest => do
      let (vs, rest) ← members (value fuel) (rest.length + 1) rest
      return (.list vs, rest)
    | '\x7b' :: rest =>
      match skipBlanks rest with
      | '\x7d' :: rest => .ok (.object [], rest)
      | rest => do
        let (t, rest) ← inlineFields (value fuel) (rest.length + 1) [] [] rest
        return (.object t, rest)
    | _ =>
      match moment? cs, basedInteger? cs, decimal? cs, specialFloat? cs with
      | some found, _, _, _ => found
      | none, some found, _, _ => .ok found
      | none, none, some found, _ => found
      | none, none, none, some found => .ok found
      | none, none, none, none => .error .malformed

/-! ### Documents -/

/--
What has been read of a document: its tables, the keys of closed lists and tables, the keys that no
header may name again, the keys that become such at the next header, and the last header.
-/
structure Document where
  root : Fields := []
  closed : List Key := []
  named : List Key := []
  pending : List Key := []
  header : Key := []

namespace Document

/--
Whether the key leads to or into a closed list or table.
-/
def isClosed (d : Document) (k : Key) : Bool :=
  d.closed.any (·.isPrefixOf k)

/--
The keys that were passed on the way become named.
-/
def settle (d : Document) : Document :=
  { d with named := d.pending ++ d.named, pending := [] }

/--
Open the table of a header.
-/
def openTable (d : Document) (k : Key) : Except ReadError Document := do
  if d.named.contains k || d.isClosed k then throw .malformed
  let root ← orMalformed (d.root.change? true some k)
  return { d with root, named := k :: d.named, header := k }

/--
Open a new table at the end of the list of a header. What was named below the list may be named again.
-/
def appendTable (d : Document) (k : Key) : Except ReadError Document := do
  if d.isClosed k then throw .malformed
  let root ← orMalformed (d.root.change? true (Fields.append? (k.getLastD "")) k.dropLast)
  let isOutside (other : Key) : Bool := !k.isPrefixOf other
  return { d with
    root
    closed := d.closed.filter isOutside
    named := k :: d.named.filter isOutside
    header := k }

/--
Add a field below the last header.
-/
def addPair (d : Document) (k : Key) (v : Value) : Except ReadError Document := do
  let passed := (List.range (k.length - 1)).map fun n => d.header ++ k.take (n + 1)
  if passed.any d.named.contains then throw .malformed
  let parent := d.header ++ k.dropLast
  if d.isClosed parent then throw .malformed
  let root ← orMalformed (d.root.change? true (Fields.add? (k.getLastD "") v) parent)
  let closed := if isContainer v then (d.header ++ k) :: d.closed else d.closed
  return { d with root, closed, pending := passed ++ d.pending }

/--
Read one statement at the start, which is no blank line.
-/
def statement (d : Document) (cs : List Char) : Except ReadError (Document × List Char) := do
  match cs with
  | '#' :: _ => return (d, cs)
  | '[' :: '[' :: rest =>
    let (k, rest) ← key (skipBlanks rest)
    let d ← d.settle.appendTable k
    match rest with
    | ']' :: ']' :: rest => return (d, skipBlanks rest)
    | _ => throw .malformed
  | '[' :: rest =>
    let (k, rest) ← key (skipBlanks rest)
    let d ← d.settle.openTable k
    match rest with
    | ']' :: rest => return (d, skipBlanks rest)
    | _ => throw .malformed
  | _ =>
    let ((k, v), rest) ← pair (value (cs.length + 1)) cs
    let d ← d.addPair k v
    return (d, skipBlanks rest)

/--
Read statements up to the end of the text.
-/
def statements : Nat → Document → List Char → Except ReadError Document
  | 0, d, _ => .ok d
  | fuel + 1, d, cs =>
    match skipBlanks cs with
    | [] => .ok d
    | '\n' :: rest => statements fuel d rest
    | cs => do
      let (d, rest) ← d.statement cs
      match ← skipComment rest with
      | [] => return d
      | '\n' :: rest => statements fuel d rest
      | _ => throw .malformed

end Document

/--
A carriage return before a line feed does not count.
-/
def unifyLineEnds : List Char → List Char
  | '\r' :: '\n' :: rest => '\n' :: unifyLineEnds rest
  | c :: rest => c :: unifyLineEnds rest
  | [] => []

/--
The table that a text holds.
-/
def read (cs : List Char) : Except ReadError Fields := do
  let cs := unifyLineEnds cs
  let d ← Document.statements (cs.length + 1) {} cs
  return d.root

end CodeAudit.Toml
