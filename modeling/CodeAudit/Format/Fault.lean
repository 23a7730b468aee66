import CodeAudit.Data.Misuse
import CodeAudit.Text.Quoted

/-!
This module contains the reasons why a template cannot be filled in.
-/

namespace CodeAudit.Format

/--
Why a template cannot be filled in.
-/
inductive Fault where
  /-- A brace stands alone. -/
  | loneBrace (c : Char)
  /-- A brace opens inside the name of a field. -/
  | braceInName
  /-- The template ends inside the name of a field. -/
  | openField
  /-- The template ends where a conversion should stand. -/
  | noConversion
  /-- Something other than a colon follows a conversion. -/
  | afterConversion
  /-- The template ends inside a format. -/
  | openFormat
  /-- A format has fields in the formats of its fields. -/
  | tooDeep
  /-- A field has no name, or its name is a number, and values have only names. -/
  | position (n : Nat)
  /-- No value has the name. -/
  | unknownName (name : String)
  /-- A part of a value is asked for without a name. -/
  | emptyPart
  /-- The bracket around the name of a part is not closed. -/
  | openBracket
  /-- Something else follows the bracket around the name of a part. -/
  | afterBracket
  /-- The value has no such attribute. -/
  | noAttribute (kind name : String)
  /-- The value has no parts. -/
  | noParts (kind : String)
  /-- The value has parts by number only. -/
  | partNumber (kind : String)
  /-- The value has fewer parts. -/
  | partRange (kind : String)
  /-- The object has no field of this name, or no field with this number. -/
  | noKey (key : String)
  /-- There is no such conversion. -/
  | unknownConversion (c : Char)
  /-- A number in a template is too large. -/
  | tooManyDigits
  /-- A precision has no digits. -/
  | noPrecision
  /-- A format breaks the rules. -/
  | malformed (spec kind : String)
  /-- Two separators between digits. -/
  | twoSeparators
  /-- A separator does not go with the code. -/
  | separator (mark code : Char)
  /-- A value of this kind has no such code. -/
  | unknownCode (code : Char) (kind : String)
  /-- Something is not allowed in a format. -/
  | notAllowed (what : String)
  /-- A value of this kind takes no format. -/
  | noFormat (kind : String)
  /-- A number is no character. -/
  | noChar
  /-- A number is too large for the machine. -/
  | wordRange
  /-- A number is too large for a floating-point number. -/
  | floatRange
  deriving DecidableEq

namespace Fault

/--
A character as messages name it: itself if it is a printable one of ASCII, else its number.
-/
def charText (c : Char) : String :=
  if 32 < c.toNat && c.toNat < 128 then String.ofList [c]
  else "\\x" ++ String.ofList (Nat.toDigits 16 c.toNat)

/--
What is said about a template that cannot be filled in.
-/
def message : Fault → String
  | .loneBrace c => "Single '" ++ String.ofList [c] ++ "' encountered in format string"
  | .braceInName => "unexpected '\x7b' in field name"
  | .openField => "expected '\x7d' before end of string"
  | .noConversion => "end of string while looking for conversion specifier"
  | .afterConversion => "expected ':' after conversion specifier"
  | .openFormat => "unmatched '\x7b' in format spec"
  | .tooDeep => "Max string recursion exceeded"
  | .position n => "Replacement index " ++ toString n ++ " out of range for positional args tuple"
  | .unknownName name => Text.quoted name
  | .emptyPart => "Empty attribute in format string"
  | .openBracket => "Missing ']' in format string"
  | .afterBracket => "Only '.' or '[' may follow ']' in format field specifier"
  | .noAttribute kind name => (Misuse.noOperation kind name).message
  | .noParts kind => "'" ++ kind ++ "' object is not subscriptable"
  | .partNumber kind => (Misuse.numberedParts kind).message
  | .partRange kind => (if kind == "str" then "string" else kind) ++ " index out of range"
  | .noKey key => key
  | .unknownConversion c => "Unknown conversion specifier " ++ charText c
  | .tooManyDigits => "Too many decimal digits in format string"
  | .noPrecision => "Format specifier missing precision"
  | .malformed spec kind =>
    "Invalid format specifier '" ++ spec ++ "' for object of type '" ++ kind ++ "'"
  | .twoSeparators => "Cannot specify both ',' and '_'."
  | .separator mark code =>
    "Cannot specify '" ++ String.ofList [mark] ++ "' with '" ++ charText code ++ "'."
  | .unknownCode code kind =>
    "Unknown format code '" ++ charText code ++ "' for object of type '" ++ kind ++ "'"
  | .notAllowed what => what
  | .noFormat kind => "unsupported format string passed to " ++ kind ++ ".__format__"
  | .noChar => "%c arg not in range(0x110000)"
  | .wordRange => "Python int too large to convert to C long"
  | .floatRange => "int too large to convert to float"

end Fault

end CodeAudit.Format
