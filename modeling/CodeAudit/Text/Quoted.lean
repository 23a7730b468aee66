import CodeAudit.Data.Decimal
import CodeAudit.Data.Value
import CodeAudit.Unicode.Printable

/-!
This module contains the text of a value as messages and prompts show it. A text inside another value
stands in quotes, with escapes for what cannot be printed.
-/

namespace CodeAudit

namespace Text

/--
A number in lower case hexadecimal with at least `width` digits.
-/
def hex (width n : Nat) : List Char :=
  let digits := Nat.toDigits 16 n
  List.replicate (width - digits.length) '0' ++ digits

/--
One character inside quotes.
-/
def quotedChar (quote c : Char) : List Char :=
  if c == quote || c == '\\' then ['\\', c]
  else if c == '\t' then ['\\', 't']
  else if c == '\n' then ['\\', 'n']
  else if c == '\r' then ['\\', 'r']
  else if Unicode.isPrintable c then [c]
  else if c.toNat < 0x100 then '\\' :: 'x' :: hex 2 c.toNat
  else if c.toNat < 0x10000 then '\\' :: 'u' :: hex 4 c.toNat
  else '\\' :: 'U' :: hex 8 c.toNat

/--
The quotes for a text: single ones, unless the text holds them and no double ones.
-/
def quoteFor (cs : List Char) : Char :=
  if cs.contains '\'' && !cs.contains '"' then '"' else '\''

/--
A text in quotes.
-/
def quoted (s : String) : String :=
  let cs := s.toList
  let quote := quoteFor cs
  String.ofList (quote :: cs.flatMap (quotedChar quote) ++ [quote])

end Text

namespace Value

mutual

/--
A value as it stands inside another one.
-/
def inner : Value → String
  | .null => "None"
  | .bool b => if b then "True" else "False"
  | .int n => toString n
  | .float x => floatText x
  | .text s => Text.quoted s
  | .list vs => "[" ++ String.intercalate ", " (innerAll vs) ++ "]"
  | .object fields => "\x7b" ++ String.intercalate ", " (innerFields fields) ++ "\x7d"
  | v => v.kindName

/--
The members of a list.
-/
def innerAll : List Value → List String
  | [] => []
  | v :: vs => inner v :: innerAll vs

/--
The fields of an object.
-/
def innerFields : List (String × Value) → List String
  | [] => []
  | (name, v) :: fields => (Text.quoted name ++ ": " ++ inner v) :: innerFields fields

end

/--
A value as it stands alone. A text is then shown without quotes.
-/
def display : Value → String
  | .text s => s
  | v => inner v

end Value

end CodeAudit
