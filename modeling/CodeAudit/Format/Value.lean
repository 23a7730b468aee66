import CodeAudit.Format.Number

/-!
This module contains values in the format that a template asks for.
-/

namespace CodeAudit.Format

/--
A text in a format: cut to the precision and padded.
-/
def formatText (cs : List Char) (spec : List Char) : Except Fault (List Char) := do
  let s ← Spec.read ⟨"str", .left, some 's'⟩ spec
  match s.code with
  | some 's' =>
    if s.sign == some ' ' then
      throw (.notAllowed "Space not allowed in string format specifier")
    if s.sign.isSome then throw (.notAllowed "Sign not allowed in string format specifier")
    if s.plainZero then
      throw (.notAllowed "Negative zero coercion (z) not allowed in string format specifier")
    if s.alternate then
      throw (.notAllowed "Alternate form (#) not allowed in string format specifier")
    if s.align = .afterSign then
      throw (.notAllowed "'=' alignment not allowed in string format specifier")
    return s.pad (match s.precision with
      | some count => cs.take count
      | none => cs)
  | code => throw (.unknownCode (code.getD 's') "str")

/--
An integer in a format. A code for floating-point numbers makes it one.
-/
def formatInt (kind : String) (n : Int) (spec : List Char) : Except Fault (List Char) := do
  let s ← Spec.read ⟨kind, .right, some 'd'⟩ spec
  let code := s.code.getD 'd'
  if ['b', 'c', 'd', 'o', 'x', 'X', 'n'].contains code then integerText s code n
  else if ['e', 'E', 'f', 'F', 'g', 'G', '%'].contains code then
    match floatOfInt? n with
    | some x => return floatNumber s (some code) x
    | none => throw .floatRange
  else throw (.unknownCode code kind)

/--
A floating-point number in a format.
-/
def formatFloat (x : Float) (spec : List Char) : Except Fault (List Char) := do
  let s ← Spec.read ⟨"float", .right, none⟩ spec
  match s.code with
  | none => return floatNumber s none x
  | some code =>
    if ['e', 'E', 'f', 'F', 'g', 'G', 'n', '%'].contains code then return floatNumber s (some code) x
    else throw (.unknownCode code "float")

/--
A value in a format. An empty format leaves the value as it is displayed.
-/
def formatValue (v : Value) (spec : List Char) : Except Fault (List Char) :=
  if spec.isEmpty then .ok v.display.toList
  else
    match v with
    | .text t => formatText t.toList spec
    | .int n => formatInt "int" n spec
    | .bool b => formatInt "bool" (if b then 1 else 0) spec
    | .float x => formatFloat x spec
    | v => .error (.noFormat v.kindName)

/-! ### Conversions -/

/--
One character of a text, as an escape if it is not of ASCII.
-/
def asciiChar (c : Char) : List Char :=
  if c.toNat < 0x80 then [c]
  else if c.toNat < 0x100 then '\\' :: 'x' :: Text.hex 2 c.toNat
  else if c.toNat < 0x10000 then '\\' :: 'u' :: Text.hex 4 c.toNat
  else '\\' :: 'U' :: Text.hex 8 c.toNat

/--
Convert a value to a text: as it is displayed, as it stands inside another value, or that in ASCII.
-/
def convert (conversion : Char) (v : Value) : Except Fault Value :=
  match conversion with
  | 's' => .ok (.text v.display)
  | 'r' => .ok (.text v.inner)
  | 'a' => .ok (.text (String.ofList (v.inner.toList.flatMap asciiChar)))
  | c => .error (.unknownConversion c)

/-! ### Parts -/

/--
The attribute of a value. Only numbers have any.
-/
def attributeOf (v : Value) (name : String) : Except Fault Value :=
  match v, name with
  | .int n, "real" => .ok (.int n)
  | .int _, "imag" => .ok (.int 0)
  | .int n, "numerator" => .ok (.int n)
  | .int _, "denominator" => .ok (.int 1)
  | .bool b, "real" => .ok (.int (if b then 1 else 0))
  | .bool _, "imag" => .ok (.int 0)
  | .bool b, "numerator" => .ok (.int (if b then 1 else 0))
  | .bool _, "denominator" => .ok (.int 1)
  | .float x, "real" => .ok (.float x)
  | .float _, "imag" => .ok (.float 0)
  | v, name => .error (.noAttribute v.kindName name)

/--
The part of a value with a number.
-/
def numberedPart (v : Value) (n : Nat) : Except Fault Value :=
  match v with
  | .text s =>
    match s.toList[n]? with
    | some c => .ok (.text (String.ofList [c]))
    | none => .error (.partRange v.kindName)
  | .list vs =>
    match vs[n]? with
    | some v => .ok v
    | none => .error (.partRange v.kindName)
  | .object _ => .error (.noKey (toString n))
  | v => .error (.noParts v.kindName)

/--
The part of a value with a name.
-/
def namedPart (v : Value) (name : String) : Except Fault Value :=
  match v with
  | .object fields =>
    match Table.get? fields name with
    | some v => .ok v
    | none => .error (.noKey (Text.quoted name))
  | .text _ => .error (.partNumber v.kindName)
  | .list _ => .error (.partNumber v.kindName)
  | v => .error (.noParts v.kindName)

end CodeAudit.Format
