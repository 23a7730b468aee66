/-!
This module contains the scanner for numeric literals. It only decides where a literal ends and
whether it is imaginary; the analysis never needs the value.
-/

namespace CodeAudit.Syntax.Number

/--
Whether `c` can go on with a name, so that it may not stand right after a number.
-/
def continuesName (c : Char) : Bool :=
  c.isAlphanum || c == '_' || c.toNat ≥ 128

/--
What is left after a run of digits in which single low lines may stand between two digits. A low line
that no digit follows is an error.
-/
def skipDigits (isDigit : Char → Bool) : List Char → Option (List Char)
  | '_' :: c :: rest => if isDigit c then skipDigits isDigit rest else none
  | ['_'] => none
  | c :: rest => if isDigit c then skipDigits isDigit rest else some (c :: rest)
  | [] => some []

/--
The keywords that may follow a number without a space between.
-/
def gluedKeywords : List (List Char) :=
  ["and", "else", "for", "if", "in", "is", "or", "not"].map String.toList

/--
Whether a number may end before `rest`.
-/
def endsBefore (rest : List Char) : Bool :=
  gluedKeywords.any (·.isPrefixOf rest) ||
    match rest with
    | [] => true
    | c :: _ => !continuesName c

/--
Accept `rest` as what follows a number.
-/
def finish (imaginary : Bool) (rest : List Char) : Option (Bool × List Char) :=
  if endsBefore rest then some (imaginary, rest) else none

/--
The end of a number after its digits and exponent: perhaps the mark of an imaginary number.
-/
def suffix : List Char → Option (Bool × List Char)
  | 'j' :: rest | 'J' :: rest => finish true rest
  | rest => finish false rest

/--
An exponent, if there is one, and the end of the number. A letter that no exponent follows may still
start a keyword.
-/
def exponent (cs : List Char) : Option (Bool × List Char) :=
  match cs with
  | [] => finish false []
  | e :: rest =>
    if e == 'e' || e == 'E' then
      match rest with
      | c :: d :: rest' =>
        if c.isDigit then (skipDigits Char.isDigit (d :: rest')).bind suffix
        else if c == '+' || c == '-' then
          if d.isDigit then (skipDigits Char.isDigit rest').bind suffix else none
        else finish false cs
      | [c] => if c.isDigit then suffix [] else finish false cs
      | [] => finish false cs
    else suffix cs

/--
The part of a number after the decimal point.
-/
def fraction (cs : List Char) : Option (Bool × List Char) :=
  match cs with
  | c :: _ => if c.isDigit then (skipDigits Char.isDigit cs).bind exponent else exponent cs
  | [] => exponent []

/--
What follows the digits of a number with a letter for its base. It may not be a digit that the base does not
have.
-/
def radixEnd (rest : List Char) : Option (Bool × List Char) :=
  match rest with
  | d :: _ => if d.isDigit then none else finish false rest
  | [] => finish false rest

/--
The digits of a number with a letter for its base. At least one digit is needed, and one low line may
stand before the first.
-/
def radixDigits (isDigit : Char → Bool) : List Char → Option (Bool × List Char)
  | '_' :: c :: rest => if isDigit c then (skipDigits isDigit rest).bind radixEnd else none
  | c :: rest => if isDigit c then (skipDigits isDigit rest).bind radixEnd else none
  | [] => none

/--
The most digits that a decimal integer may have.
-/
def maxDecimalDigits : Nat := 4300

/--
The end of an integer with the given digits. It may not start with zero unless it is zero, and only zero
may have any number of digits.
-/
def integerEnd (digits rest : List Char) : Option (Bool × List Char) :=
  if digits.all (· == '0') then finish false rest
  else if digits.head? == some '0' || digits.length > maxDecimalDigits then none
  else finish false rest

/--
What follows the first digits of a number: a fraction, an exponent or the end.
-/
def decimalEnd (digits : List Char) (rest : List Char) : Option (Bool × List Char) :=
  match rest with
  | '.' :: rest => fraction rest
  | 'e' :: _ | 'E' :: _ | 'j' :: _ | 'J' :: _ => exponent rest
  | _ => integerEnd digits rest

/--
A number that starts with a digit.
-/
def decimal (cs : List Char) : Option (Bool × List Char) :=
  (skipDigits Char.isDigit cs).bind fun rest =>
    decimalEnd ((cs.take (cs.length - rest.length)).filter Char.isDigit) rest

/--
Whether `c` is a hexadecimal digit.
-/
def isHexDigit (c : Char) : Bool :=
  c.isDigit || ('a' ≤ c && c ≤ 'f') || ('A' ≤ c && c ≤ 'F')

/--
Scan a number at the start of `cs`: whether it is imaginary, and what follows it. The first character
is a digit, or a point with a digit after it.
-/
def scan (cs : List Char) : Option (Bool × List Char) :=
  match cs with
  | '.' :: rest => fraction rest
  | '0' :: 'x' :: rest | '0' :: 'X' :: rest => radixDigits isHexDigit rest
  | '0' :: 'o' :: rest | '0' :: 'O' :: rest => radixDigits (fun c => '0' ≤ c && c ≤ '7') rest
  | '0' :: 'b' :: rest | '0' :: 'B' :: rest => radixDigits (fun c => c == '0' || c == '1') rest
  | _ => decimal cs

end CodeAudit.Syntax.Number
