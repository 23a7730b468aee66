import CodeAudit.Data.Rounding
import CodeAudit.Format.Spec

/-!
This module contains numbers in the notation that a format asks for.
-/

namespace CodeAudit.Format

/-! ### Integers -/

/--
The base of a code for integers, the mark that goes before its digits, and the size of its groups.
-/
def baseOf (code : Char) : Nat × List Char × Nat :=
  match code with
  | 'b' => (2, ['0', 'b'], 4)
  | 'o' => (8, ['0', 'o'], 4)
  | 'x' => (16, ['0', 'x'], 4)
  | 'X' => (16, ['0', 'X'], 4)
  | _ => (10, [], 3)

/--
An integer as a character.
-/
def charOfInt (s : Spec) (n : Int) : Except Fault (List Char) := do
  if s.sign.isSome then throw (.notAllowed "Sign not allowed with integer format specifier 'c'")
  if s.alternate then
    throw (.notAllowed "Alternate form (#) not allowed with integer format specifier 'c'")
  if n < -Int.pow 2 63 || Int.pow 2 63 ≤ n then throw .wordRange
  if n < 0 || 0x10ffff < n then throw .noChar
  return s.number false [] [] [Char.ofNat n.toNat] 3

/--
An integer in one of the notations for integers.
-/
def integerText (s : Spec) (code : Char) (n : Int) : Except Fault (List Char) := do
  if s.precision.isSome then
    throw (.notAllowed "Precision not allowed in integer format specifier")
  if s.plainZero then
    throw (.notAllowed "Negative zero coercion (z) not allowed in integer format specifier")
  if code == 'c' then charOfInt s n
  else
    let (base, mark, size) := baseOf code
    let digits := Nat.toDigits base n.natAbs
    let digits := if code == 'X' then digits.map Char.toUpper else digits
    return s.number (n < 0) (if s.alternate then mark else []) digits [] size

/-! ### Floating-point numbers -/

/--
The notations for floating-point numbers.
-/
inductive FloatStyle where
  /-- With an exponent. -/
  | scientific
  /-- With a fixed number of places after the point. -/
  | fixed
  /-- With a number of digits in all, and an exponent if the number is large or small. -/
  | general
  /-- As short as possible. -/
  | shortest
  deriving DecidableEq

/--
The digits of a positive finite number or zero in a notation.
-/
def floatDigits (n : FloatStyle) (precision : Nat) (x : Float) : Decimal :=
  if x == 0 then ⟨[0], 1⟩
  else
    match n with
    | .scientific => Decimal.toDigits x (precision + 1)
    | .fixed => Decimal.toPlaces x precision
    | .general => Decimal.toDigits x precision
    | .shortest => { Decimal.shortest x with digits := (Decimal.shortest x).trimmed }

/--
Write digits with a point and, if the notation asks for it, an exponent. If `keepPlace` holds, a digit
stands after the point; if `keepPoint` holds, the point stays even without one.
-/
def floatLayout (n : FloatStyle) (precision : Nat) (keepPlace keepPoint : Bool) (d : Decimal) :
    List Char :=
  let digits := d.digits.map Nat.digitChar
  let count : Int := digits.length
  let hasExponent := match n with
    | .scientific => true
    | .fixed => false
    | .general => d.exponent ≤ -4 || precision < d.exponent
    | .shortest => d.exponent ≤ -4 || 16 < d.exponent
  let last : Int := match n with
    | .scientific => precision + 1
    | .fixed => d.exponent + precision
    | .general => if keepPoint then precision else count
    | .shortest => count
  let point : Int := if hasExponent then 1 else d.exponent
  let last := max last (if !hasExponent && keepPlace then point + 1 else point)
  let zeros (k : Int) : List Char := List.replicate k.toNat '0'
  let body :=
    if point ≤ 0 then ['0', '.'] ++ zeros (-point) ++ digits ++ zeros (last - count)
    else if point ≤ count then
      digits.take point.toNat ++ ['.'] ++ digits.drop point.toNat ++ zeros (last - count)
    else digits ++ zeros (point - count) ++ ['.'] ++ zeros (last - point)
  let body := if body.getLast? == some '.' && !keepPoint then body.dropLast else body
  if hasExponent then
    let power := d.exponent - 1
    let size := Nat.toDigits 10 power.natAbs
    body ++ ['e', if power < 0 then '-' else '+'] ++ zeros (2 - size.length) ++ size
  else body

/--
A floating-point number in one of the notations for them.
-/
def floatNumber (s : Spec) (code : Option Char) (x : Float) : List Char :=
  let x := if code == some '%' then x * 100 else x
  let style : FloatStyle := match code with
    | some 'e' => .scientific
    | some 'E' => .scientific
    | some 'f' => .fixed
    | some 'F' => .fixed
    | some '%' => .fixed
    | none => if s.precision.isSome then .general else .shortest
    | _ => .general
  let precision := s.precision.getD 6
  let precision := if style = .general then max precision 1 else precision
  let size := x.abs
  let isNegative := !x.isNaN && x.toBits.toNat / Nat.pow 2 63 = 1
  let body :=
    if x.isNaN then "nan".toList
    else if x.isInf then "inf".toList
    else floatLayout style precision code.isNone s.alternate (floatDigits style precision size)
  let isZero := body.all fun c => !c.isDigit || c == '0'
  let negative := isNegative && !(s.plainZero && isZero && !x.isInf)
  let isUpper := code == some 'E' || code == some 'F' || code == some 'G'
  let body := if isUpper then body.map Char.toUpper else body
  let body := if code == some '%' then body ++ ['%'] else body
  let digits := body.takeWhile Char.isDigit
  s.number negative [] digits (body.drop digits.length) 3

end CodeAudit.Format
