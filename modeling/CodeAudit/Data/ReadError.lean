/-!
This module contains the reasons why the text of a value is not read.
-/

namespace CodeAudit

/--
Why a text is not read.
-/
inductive ReadError where
  /-- The text breaks the rules of its format. -/
  | malformed
  /-- An integer has more digits than are allowed. -/
  | tooManyDigits (count : Nat)
  deriving DecidableEq

/--
The most digits that an integer may have.
-/
def maxDigits : Nat := 4300

/--
What is said about an integer with too many digits.
-/
def tooManyDigitsMessage (count : Nat) : String :=
  "Exceeds the limit (" ++ toString maxDigits ++ " digits) for integer string conversion: value has " ++
    toString count ++ " digits; use sys.set_int_max_str_digits() to increase the limit"

/--
What is said about an integer that has too many digits to be written.
-/
def longIntegerMessage : String :=
  "Exceeds the limit (" ++ toString maxDigits ++ " digits) for integer string conversion; " ++
    "use sys.set_int_max_str_digits() to increase the limit"

end CodeAudit
