import CodeAudit.Format.Fault
import CodeAudit.Unicode.Digit

/-!
This module contains formats: how a value is padded, signed, grouped and cut, and in which notation it
is written.
-/

namespace CodeAudit.Format

/--
Where a value stands in a wider field. Numbers can be padded after their sign.
-/
inductive Align where
  | left
  | right
  | center
  | afterSign
  deriving DecidableEq

/--
The alignment that a character stands for.
-/
def Align.ofChar? (c : Char) : Option Align :=
  match c with
  | '<' => some .left
  | '>' => some .right
  | '^' => some .center
  | '=' => some .afterSign
  | _ => none

/--
A format.
-/
structure Spec where
  fill : Char := ' '
  align : Align
  sign : Option Char := none
  /-- Whether a zero is written without a sign. -/
  plainZero : Bool := false
  /-- Whether the notation is written out: with its base, or with a point. -/
  alternate : Bool := false
  width : Nat := 0
  separator : Option Char := none
  precision : Option Nat := none
  code : Option Char := none

/--
What a format means if it is silent, by the kind of value.
-/
structure Defaults where
  kind : String
  align : Align
  code : Option Char

/--
The greatest number in a template.
-/
def maxNumber : Nat := Nat.pow 2 63 - 1

/--
The number at the start, in digits of any script, and what follows.
-/
def number? (cs : List Char) : Except Fault (Option Nat × List Char) :=
  let ds := cs.takeWhile fun c => (Unicode.decimalValue? c).isSome
  if ds.isEmpty then .ok (none, cs)
  else
    let n := ds.foldl (fun n c => 10 * n + (Unicode.decimalValue? c).getD 0) 0
    if maxNumber < n then .error .tooManyDigits else .ok (some n, cs.drop ds.length)

/--
The fill character and the alignment at the start, and what follows.
-/
def alignment (cs : List Char) : Option Char × Option Align × List Char :=
  match cs with
  | [] => (none, none, [])
  | [a] =>
    match Align.ofChar? a with
    | some align => (none, some align, [])
    | none => (none, none, cs)
  | a :: b :: rest =>
    match Align.ofChar? b, Align.ofChar? a with
    | some align, _ => (some a, some align, rest)
    | none, some align => (none, some align, b :: rest)
    | none, none => (none, none, cs)

/--
Drop a character at the start, if it is there.
-/
def flag (c : Char) (cs : List Char) : Bool × List Char :=
  match cs with
  | d :: rest => if c == d then (true, rest) else (false, cs)
  | [] => (false, [])

/--
The sign at the start, if there is one, and what follows.
-/
def signOption (cs : List Char) : Option Char × List Char :=
  match cs with
  | c :: rest => if c == ' ' || c == '+' || c == '-' then (some c, rest) else (none, cs)
  | [] => (none, [])

/--
The separator between groups of digits at the start, if there is one, and what follows.
-/
def separatorOption (cs : List Char) : Except Fault (Option Char × List Char) :=
  match cs with
  | ',' :: '_' :: _ => .error .twoSeparators
  | '_' :: ',' :: _ => .error .twoSeparators
  | ',' :: rest => .ok (some ',', rest)
  | '_' :: rest => .ok (some '_', rest)
  | _ => .ok (none, cs)

/--
The precision at the start, if there is one, and what follows.
-/
def precisionOption (cs : List Char) : Except Fault (Option Nat × List Char) :=
  match cs with
  | '.' :: rest => do
    match ← number? rest with
    | (some n, rest) => return (some n, rest)
    | (none, _) => throw .noPrecision
  | _ => .ok (none, cs)

/--
The codes of numbers that can be grouped. Those of other bases than ten only with an underscore.
-/
def checkSeparator (separator : Option Char) (code : Option Char) : Except Fault Unit :=
  match separator, code with
  | none, _ => .ok ()
  | some _, none => .ok ()
  | some s, some code =>
    if ['d', 'e', 'f', 'g', 'E', 'G', '%', 'F'].contains code then .ok ()
    else if s == '_' && ['b', 'o', 'x', 'X'].contains code then .ok ()
    else .error (.separator s code)

/--
Read a format.
-/
def Spec.read (d : Defaults) (cs : List Char) : Except Fault Spec := do
  let (fill, align, rest) := alignment cs
  let (sign, rest) := signOption rest
  let (plainZero, rest) := flag 'z' rest
  let (alternate, rest) := flag '#' rest
  let (zeros, rest) := if fill.isNone then flag '0' rest else (false, rest)
  let (width, rest) ← number? rest
  let (separator, rest) ← separatorOption rest
  let (precision, rest) ← precisionOption rest
  let code ← match rest with
    | [] => pure d.code
    | [code] => pure (some code)
    | _ => throw (.malformed (String.ofList cs) d.kind)
  checkSeparator separator code
  let standard := if zeros && d.align = .right then .afterSign else d.align
  return {
    fill := fill.getD (if zeros then '0' else ' ')
    align := align.getD standard
    sign, plainZero, alternate, width := width.getD 0, separator, precision, code }

/-! ### Padding -/

/--
Pad a text to the width of the format.
-/
def Spec.pad (s : Spec) (cs : List Char) : List Char :=
  let count := s.width - cs.length
  let before := match s.align with
    | .right => count
    | .center => count / 2
    | _ => 0
  List.replicate before s.fill ++ cs ++ List.replicate (count - before) s.fill

/--
Digits with a separator between groups, at least `width` characters in all. Zeros fill them up, and a
separator never comes first.
-/
def grouped (size : Nat) (separator : Char) (width : Nat) (digits : List Char) : List Char :=
  go (digits.length + width + 1) width digits.reverse []
where
  /-- `rest` holds the digits that are left, the last one first, and `acc` what is written. -/
  go : Nat → Nat → List Char → List Char → List Char
    | 0, _, _, acc => acc
    | fuel + 1, width, rest, acc =>
      let count := min size (max (max rest.length width) 1)
      let group := (rest.take count).reverse
      let acc := List.replicate (count - group.length) '0' ++ group ++ acc
      let rest := rest.drop count
      if rest.isEmpty && width ≤ count then acc
      else go fuel (width - count - 1) rest (separator :: acc)

/--
Digits in their groups, filled up with zeros to `width` characters.
-/
def Spec.groupDigits (s : Spec) (size : Nat) (width : Nat) (digits : List Char) : List Char :=
  match s.separator with
  | some separator => grouped size separator width digits
  | none => List.replicate (width - digits.length) '0' ++ digits

/--
Write a number from its parts: whether it is negative, the mark of its base, the digits before the
point, and what follows them.
-/
def Spec.number (s : Spec) (negative : Bool) (mark digits rest : List Char) (groupSize : Nat) :
    List Char :=
  let sign : List Char :=
    if negative then ['-']
    else
      match s.sign with
      | some '+' => ['+']
      | some ' ' => [' ']
      | _ => []
  let others := sign.length + mark.length + rest.length
  let zeros := if s.fill == '0' && s.align = .afterSign then s.width - others else 0
  let digits := if digits.isEmpty then [] else s.groupDigits groupSize zeros digits
  if s.align = .afterSign then
    sign ++ mark ++ List.replicate (s.width - others - digits.length) s.fill ++ digits ++ rest
  else s.pad (sign ++ mark ++ digits ++ rest)

end CodeAudit.Format
