import CodeAudit.Data.Decimal

/-!
This module contains the decimals of a given length that are nearest to a floating-point number.
-/

namespace CodeAudit.Decimal

/--
The whole number nearest to a fraction. A half goes to the even neighbour.
-/
def roundHalfEven (numerator denominator : Nat) : Nat :=
  let below := numerator / denominator
  let twice := 2 * (numerator % denominator)
  if twice < denominator || (twice = denominator && below % 2 = 0) then below else below + 1

/--
A number without zeros at the end, whose last digit stands at the given place right of the point.
-/
def ofScaled (n : Nat) (places : Int) : Decimal :=
  if n = 0 then ⟨[], -places⟩
  else
    let digits := (Nat.toDigits 10 n).map fun c => c.toNat - '0'.toNat
    let d : Decimal := ⟨digits, digits.length - places⟩
    { d with digits := d.trimmed }

/--
The nearest whole number to a positive finite number times a power of ten.
-/
def scaled (x : Float) (places : Int) : Nat :=
  let b := Binary.ofFloat x
  let numerator := b.mantissa * Nat.pow 2 b.exponent.toNat * Nat.pow 10 places.toNat
  let denominator := Nat.pow 2 (-b.exponent).toNat * Nat.pow 10 (-places).toNat
  roundHalfEven numerator denominator

/--
The decimal with a given number of places after the point that is nearest to a positive finite number.
-/
def toPlaces (x : Float) (places : Nat) : Decimal :=
  ofScaled (scaled x places) places

/--
The decimal with a given number of digits that is nearest to a positive finite number.
-/
def toDigits (x : Float) (count : Nat) : Decimal :=
  let magnitude := (Interval.ofBinary (Binary.ofFloat x)).magnitude
  ofScaled (scaled x (count - magnitude)) (count - magnitude)

end CodeAudit.Decimal
