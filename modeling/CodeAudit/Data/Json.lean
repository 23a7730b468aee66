import CodeAudit.Data.Decimal
import CodeAudit.Data.ReadError
import CodeAudit.Data.Value
import CodeAudit.Syntax.Literal

/-!
This module contains the reader for JSON text. Numbers without a fraction and an exponent are
integers, the words for infinities and for what is no number are read, and of two fields with one name
the last counts.
-/

namespace CodeAudit.Json

/--
Read from the start of a text, and give what follows.
-/
abbrev Reader (α : Type) := List Char → Except ReadError (α × List Char)

/--
Drop the blanks at the start.
-/
def skipBlanks (cs : List Char) : List Char :=
  cs.dropWhile fun c => c == ' ' || c == '\t' || c == '\n' || c == '\r'

/--
Four hexadecimal digits.
-/
def unit (cs : List Char) : Except ReadError (Nat × List Char) :=
  match Syntax.Literal.hexDigits? 4 cs with
  | some found => .ok found
  | none => .error .malformed

/--
The escapes of one letter.
-/
def escapes : List (Char × Char) :=
  [('"', '"'), ('\\', '\\'), ('/', '/'), ('b', '\x08'), ('f', '\x0c'), ('n', '\n'), ('r', '\r'),
    ('t', '\t')]

/--
The code points of a string up to its closing quote.
-/
def stringFrom : Nat → Reader (List Nat)
  | 0, _ => .error .malformed
  | fuel + 1, cs =>
    match cs with
    | [] => .error .malformed
    | '"' :: rest => .ok ([], rest)
    | '\\' :: 'u' :: rest => do
      let (n, rest) ← unit rest
      let (ns, rest) ← stringFrom fuel rest
      return (n :: ns, rest)
    | '\\' :: c :: rest =>
      match escapes.lookup c with
      | none => .error .malformed
      | some d => do
        let (ns, rest) ← stringFrom fuel rest
        return (d.toNat :: ns, rest)
    | c :: rest =>
      if c.toNat < 0x20 then .error .malformed
      else do
        let (ns, rest) ← stringFrom fuel rest
        return (c.toNat :: ns, rest)

/--
A string after its opening quote.
-/
def string : Reader String := fun cs => do
  let (ns, rest) ← stringFrom (cs.length + 1) cs
  return (String.ofList (Syntax.Literal.textOfCodePoints ns), rest)

/--
The number that decimal digits denote.
-/
def digitsValue (ds : List Char) : Nat :=
  ds.foldl (fun n c => 10 * n + (c.toNat - '0'.toNat)) 0

/--
A fraction after the point, if there is one: its digits and what follows.
-/
def fractionDigits (cs : List Char) : Option (List Char × List Char) :=
  match cs with
  | '.' :: rest =>
    let ds := rest.takeWhile Char.isDigit
    if ds.isEmpty then none else some (ds, rest.drop ds.length)
  | _ => none

/--
An exponent, if there is one, and what follows.
-/
def exponentValue (cs : List Char) : Option (Int × List Char) :=
  match cs with
  | e :: rest =>
    if e == 'e' || e == 'E' then
      let (negative, rest) := match rest with
        | '-' :: rest => (true, rest)
        | '+' :: rest => (false, rest)
        | _ => (false, rest)
      let ds := rest.takeWhile Char.isDigit
      if ds.isEmpty then none
      else
        let n : Int := digitsValue ds
        some (if negative then -n else n, rest.drop ds.length)
    else none
  | [] => none

/--
A number after its sign.
-/
def unsigned (negative : Bool) : Reader Value := fun cs =>
  let run := cs.takeWhile Char.isDigit
  let whole := if run.head? == some '0' then ['0'] else run
  if whole.isEmpty then .error .malformed
  else
    let rest := cs.drop whole.length
    match fractionDigits rest, exponentValue rest with
    | none, none =>
      if whole.length > maxDigits then .error (.tooManyDigits whole.length)
      else
        let n : Int := digitsValue whole
        .ok (.int (if negative then -n else n), rest)
    | none, some (e, rest) => .ok (.float (floatOfDecimal negative (digitsValue whole) e), rest)
    | some (ds, rest), _ =>
      let (e, rest) := (exponentValue rest).getD (0, rest)
      .ok (.float (floatOfDecimal negative (digitsValue (whole ++ ds)) (e - ds.length)), rest)

/--
The words that are values.
-/
def words : List (List Char × Value) :=
  [("null".toList, .null), ("true".toList, .bool true), ("false".toList, .bool false),
    ("NaN".toList, .float (0.0 / 0.0)), ("Infinity".toList, .float (1.0 / 0.0)),
    ("-Infinity".toList, .float (-1.0 / 0.0))]

/--
A value that holds no others.
-/
def scalar : Reader Value := fun cs =>
  match words.find? fun entry => entry.1.isPrefixOf cs with
  | some (word, v) => .ok (v, cs.drop word.length)
  | none =>
    match cs with
    | '"' :: rest => do
      let (s, rest) ← string rest
      return (.text s, rest)
    | '-' :: rest => unsigned true rest
    | _ => unsigned false cs

mutual

/--
A value at the start of the text, without blanks before it. Each step reads a character, so the length
of the text is enough fuel.
-/
def value : Nat → Reader Value
  | 0, _ => .error .malformed
  | fuel + 1, cs =>
    match cs with
    | '[' :: rest =>
      match skipBlanks rest with
      | ']' :: rest => .ok (.list [], rest)
      | rest => do
        let (vs, rest) ← members fuel rest
        return (.list vs, rest)
    | '\x7b' :: rest =>
      match skipBlanks rest with
      | '\x7d' :: rest => .ok (.object [], rest)
      | rest => do
        let (fs, rest) ← fields fuel rest
        return (.object (Table.ofList fs), rest)
    | _ => scalar cs

/--
The members of a list from the next one on.
-/
def members : Nat → Reader (List Value)
  | 0, _ => .error .malformed
  | fuel + 1, cs => do
    let (v, rest) ← value fuel (skipBlanks cs)
    match skipBlanks rest with
    | ',' :: rest =>
      let (vs, rest) ← members fuel rest
      return (v :: vs, rest)
    | ']' :: rest => return ([v], rest)
    | _ => throw .malformed

/--
The fields of an object from the next one on.
-/
def fields : Nat → Reader (List (String × Value))
  | 0, _ => .error .malformed
  | fuel + 1, cs =>
    match skipBlanks cs with
    | '"' :: rest => do
      let (name, rest) ← string rest
      match skipBlanks rest with
      | ':' :: rest =>
        let (v, rest) ← value fuel (skipBlanks rest)
        match skipBlanks rest with
        | ',' :: rest =>
          let (fs, rest) ← fields fuel rest
          return ((name, v) :: fs, rest)
        | '\x7d' :: rest => return ([(name, v)], rest)
        | _ => throw .malformed
      | _ => throw .malformed
    | _ => .error .malformed

end

/--
The value that a text holds. Nothing but blanks may stand around it.
-/
def read (s : String) : Except ReadError Value := do
  let cs := skipBlanks s.toList
  let (v, rest) ← value (2 * cs.length + 2) cs
  if (skipBlanks rest).isEmpty then return v else throw .malformed

end CodeAudit.Json
