/-!
This module contains the shortest decimal that reads back as a given binary floating-point number, and
the notation in which it is written.
-/

namespace CodeAudit

/--
A positive decimal fraction: `0.d₁d₂d₃… · 10 ^ exponent` with the digits `d₁d₂d₃…`.
-/
structure Decimal where
  digits : List Nat
  exponent : Int

namespace Decimal

/--
A positive binary fraction `mantissa · 2 ^ exponent`, and whether the next smaller number of its format
is only half as far away as the next larger one.
-/
structure Binary where
  mantissa : Nat
  exponent : Int
  atPower : Bool

/--
The binary fraction of a positive finite number.
-/
def Binary.ofFloat (x : Float) : Binary :=
  let bits := x.toBits.toNat
  let biased : Nat := bits / Nat.pow 2 52 % Nat.pow 2 11
  let fraction : Nat := bits % Nat.pow 2 52
  if biased = 0 then ⟨fraction, -1074, false⟩
  else ⟨Nat.pow 2 52 + fraction, (biased : Int) - 1075, fraction = 0 && biased > 1⟩

/--
The reals that round to a binary fraction lie between `low / scale` and `high / scale`; the fraction
itself is `value / scale`. The ends belong to them if `closed` holds.
-/
structure Interval where
  low : Nat
  value : Nat
  high : Nat
  scale : Nat
  closed : Bool

/--
The reals that round to a binary fraction. Halfway cases go to the even mantissa.
-/
def Interval.ofBinary (b : Binary) : Interval :=
  let up := Nat.pow 2 b.exponent.toNat
  let down := Nat.pow 2 (-b.exponent).toNat
  { low := (4 * b.mantissa - if b.atPower then 1 else 2) * up
    value := 4 * b.mantissa * up
    high := (4 * b.mantissa + 2) * up
    scale := 4 * down
    closed := b.mantissa % 2 = 0 }

/--
How far the decimal point stands right of the first digit of `value / scale`.
-/
def Interval.magnitude (i : Interval) : Int :=
  if i.scale ≤ i.value then (Nat.toDigits 10 (i.value / i.scale)).length
  else go 400 0 i.value
where
  go : Nat → Int → Nat → Int
    | 0, e, _ => e
    | fuel + 1, e, v => if i.scale ≤ 10 * v then e else go fuel (e - 1) (10 * v)

/--
The whole number `n` such that `n · 10 ^ place` is nearest to the value among those that lie in the
interval, if one does. Only the two neighbours of the value can be nearest; of two that are equally
near, the even one is taken.
-/
def Interval.nearest? (i : Interval) (place : Int) : Option Nat :=
  let up := Nat.pow 10 place.toNat
  let down := Nat.pow 10 (-place).toNat
  let unit := i.scale * up
  let below := i.value * down / unit
  let inside (n : Nat) : Bool :=
    if i.closed then i.low * down ≤ n * unit && n * unit ≤ i.high * down
    else i.low * down < n * unit && n * unit < i.high * down
  let above := below + 1
  let fromBelow := i.value * down - below * unit
  let toAbove := above * unit - i.value * down
  match inside below, inside above with
  | true, false => some below
  | false, true => some above
  | true, true =>
    if fromBelow < toAbove || (fromBelow = toAbove && below % 2 = 0) then some below else some above
  | false, false => none

/--
The shortest decimal that reads back as a positive finite number. Seventeen digits are always enough.
-/
def shortest (x : Float) : Decimal :=
  let i := Interval.ofBinary (Binary.ofFloat x)
  let e := i.magnitude
  go i e 17 1
where
  go (i : Interval) (e : Int) : Nat → Nat → Decimal
    | 0, _ => ⟨[], e⟩
    | fuel + 1, count =>
      match i.nearest? (e - count) with
      | none => go i e fuel (count + 1)
      | some n =>
        let digits := (Nat.toDigits 10 n).map fun c => c.toNat - '0'.toNat
        ⟨digits, e + (digits.length - count : Int)⟩

/--
The digits as text.
-/
def digitText (ds : List Nat) : String :=
  String.ofList (ds.map Nat.digitChar)

/--
The digits without zeros at the end.
-/
def trimmed (d : Decimal) : List Nat :=
  (d.digits.reverse.dropWhile (· == 0)).reverse

/--
The decimal in positional notation if its first digit stands at most four places right of the point
and at most sixteen left of it, else with an exponent of at least two digits. A whole number in
positional notation is written with one digit after the point.
-/
def toText (d : Decimal) : String :=
  let ds := d.trimmed
  let e := d.exponent
  if -4 < e && e ≤ 16 then
    if e ≤ 0 then "0." ++ digitText (List.replicate (-e).toNat 0 ++ ds)
    else
      let whole := ds.take e.toNat ++ List.replicate (e.toNat - ds.length) 0
      let fraction := ds.drop e.toNat
      digitText whole ++ "." ++ (if fraction.isEmpty then "0" else digitText fraction)
  else
    let power := e - 1
    let first := digitText (ds.take 1)
    let rest := if ds.length ≤ 1 then "" else "." ++ digitText (ds.drop 1)
    let sign := if power < 0 then "-" else "+"
    let size := toString power.natAbs
    first ++ rest ++ "e" ++ sign ++ (if size.length < 2 then "0" ++ size else size)

end Decimal

/--
The text of a floating-point number: its shortest decimal with its sign.
-/
def floatText (x : Float) : String :=
  if x.isNaN then "nan"
  else
    let sign := if x.toBits.toNat / Nat.pow 2 63 = 1 then "-" else ""
    let size := x.abs
    if size.isInf then sign ++ "inf"
    else if size == 0 then sign ++ "0.0"
    else sign ++ (Decimal.shortest size).toText

/--
The floating-point number nearest to `mantissa · 10 ^ exponent`. Exponents beyond the range of the
format are decided first.
-/
def floatOfDecimal (negative : Bool) (mantissa : Nat) (exponent : Int) : Float :=
  let size := (Nat.toDigits 10 mantissa).length + exponent
  let x :=
    if mantissa = 0 || size < -400 then 0.0
    else if size > 400 then 1.0 / 0.0
    else Float.ofScientific mantissa (exponent < 0) exponent.natAbs
  if negative then -x else x

/--
The floating-point number nearest to an integer, unless the integer is beyond their range.
-/
def floatOfInt? (n : Int) : Option Float :=
  let x := floatOfDecimal (n < 0) n.natAbs 0
  if x.isInf then none else some x

end CodeAudit
