import CodeAudit.Data.Decimal
import CodeAudit.Data.Misuse
import CodeAudit.Text.Quoted

/-!
This module contains the writer for JSON text.
-/

namespace CodeAudit.Json

/--
The escape of a number of sixteen bits.
-/
def unitEscape (n : Nat) : List Char :=
  '\\' :: 'u' :: Text.hex 4 n

/--
One character inside a string. All that is not of ASCII is escaped, in two halves where one number of
sixteen bits is not enough.
-/
def stringChar (c : Char) : List Char :=
  if c == '"' || c == '\\' then ['\\', c]
  else if 0x20 ≤ c.toNat && c.toNat < 0x7f then [c]
  else if c.toNat < 0x10000 then unitEscape c.toNat
  else
    let n := c.toNat - 0x10000
    unitEscape (0xd800 + n / 0x400) ++ unitEscape (0xdc00 + n % 0x400)

/--
A string in quotes.
-/
def stringText (s : String) : String :=
  String.ofList ('"' :: s.toList.flatMap stringChar ++ ['"'])

/--
A number with a fraction. What is no number and the infinities are written as words.
-/
def numberText (x : Float) : String :=
  if x.isNaN then "NaN"
  else if x.isInf then (if x < 0 then "-Infinity" else "Infinity")
  else floatText x

mutual

/--
The text of a value.
-/
def text : Value → String
  | .null => "null"
  | .bool b => if b then "true" else "false"
  | .int n => toString n
  | .float x => numberText x
  | .text s => stringText s
  | .list vs => "[" ++ String.intercalate ", " (memberTexts vs) ++ "]"
  | .object fields => "\x7b" ++ String.intercalate ", " (fieldTexts fields) ++ "\x7d"
  | v => stringText v.kindName

/--
The texts of the members of a list.
-/
def memberTexts : List Value → List String
  | [] => []
  | v :: vs => text v :: memberTexts vs

/--
The texts of the fields of an object.
-/
def fieldTexts : List (String × Value) → List String
  | [] => []
  | (name, v) :: fields => (stringText name ++ ": " ++ text v) :: fieldTexts fields

end

mutual

/--
Why a value has no text: what stands first in it of a point in time and an integer with too many digits.
-/
def unwritable? : Value → Option Misuse
  | .list vs => unwritableMember? vs
  | .object fields => unwritableField? fields
  | .moment m => some (.noText m)
  | .int n => if maxDigits < (Nat.toDigits 10 n.natAbs).length then some .tooLong else none
  | _ => none

/--
Why the members of a list have no text.
-/
def unwritableMember? : List Value → Option Misuse
  | [] => none
  | v :: vs => (unwritable? v).or (unwritableMember? vs)

/--
Why the fields of an object have no text.
-/
def unwritableField? : List (String × Value) → Option Misuse
  | [] => none
  | (_, v) :: fields => (unwritable? v).or (unwritableField? fields)

end

/--
Let a value pass if it has a text.
-/
def writable (v : Value) : Except Misuse Unit :=
  match unwritable? v with
  | none => .ok ()
  | some m => .error m

end CodeAudit.Json
