import CodeAudit.Text.Quoted

/-!
This module contains the step between characters and bytes: texts given as code points, which may not
be characters, and texts given as bytes, which may not be UTF-8.
-/

namespace CodeAudit.Text

/-! ### Code points -/

/--
A run of surrogates in a list of code points: where it starts, how long it is, and the first of them.
A surrogate is no character and has no encoding.
-/
structure Unencodable where
  position : Nat
  length : Nat
  first : Nat
  deriving DecidableEq

/--
Whether a code point is a surrogate.
-/
def isSurrogate (n : Nat) : Bool :=
  0xd800 ≤ n && n < 0xe000

/--
The characters with the given code points, or the first run of surrogates.
-/
def ofCodePoints (ns : List Nat) : Except Unencodable (List Char) :=
  match ns.span (!isSurrogate ·) with
  | (before, []) => .ok (before.map Char.ofNat)
  | (before, n :: rest) => .error ⟨before.length, (rest.takeWhile isSurrogate).length + 1, n⟩

/--
What is wrong with a text that has no encoding.
-/
def Unencodable.message (e : Unencodable) : String :=
  if e.length = 1 then
    "'utf-8' codec can't encode character '\\u" ++ String.ofList (hex 4 e.first) ++ "' in position " ++
      toString e.position ++ ": surrogates not allowed"
  else
    "'utf-8' codec can't encode characters in position " ++ toString e.position ++ "-" ++
      toString (e.position + e.length - 1) ++ ": surrogates not allowed"

/-! ### Bytes -/

/--
Why bytes are not UTF-8.
-/
inductive Undecodable.Cause where
  | invalidStart
  | invalidContinuation
  | unexpectedEnd
  deriving DecidableEq

/--
Bytes that are not UTF-8: where they start, how many they are, and the first of them.
-/
structure Undecodable where
  cause : Undecodable.Cause
  position : Nat
  length : Nat
  first : Nat
  deriving DecidableEq

/--
What is wrong with bytes that are not UTF-8.
-/
def Undecodable.message (e : Undecodable) : String :=
  let reason := match e.cause with
    | .invalidStart => "invalid start byte"
    | .invalidContinuation => "invalid continuation byte"
    | .unexpectedEnd => "unexpected end of data"
  if e.length = 1 then
    "'utf-8' codec can't decode byte 0x" ++ String.ofList (hex 2 e.first) ++ " in position " ++
      toString e.position ++ ": " ++ reason
  else
    "'utf-8' codec can't decode bytes in position " ++ toString e.position ++ "-" ++
      toString (e.position + e.length - 1) ++ ": " ++ reason

/--
What the first byte of a character says: how many bytes follow, the bits that it adds, and the bounds
of the byte after it, which exclude forms that are too long, surrogates and what lies beyond Unicode.
-/
def leadByte? (b : Nat) : Option (Nat × Nat × Nat × Nat) :=
  if b < 0x80 then some (0, b, 0, 0)
  else if 0xc2 ≤ b && b < 0xe0 then some (1, b - 0xc0, 0x80, 0xbf)
  else if b == 0xe0 then some (2, 0, 0xa0, 0xbf)
  else if b == 0xed then some (2, 0xd, 0x80, 0x9f)
  else if 0xe1 ≤ b && b < 0xf0 then some (2, b - 0xe0, 0x80, 0xbf)
  else if b == 0xf0 then some (3, 0, 0x90, 0xbf)
  else if 0xf1 ≤ b && b < 0xf4 then some (3, b - 0xf0, 0x80, 0xbf)
  else if b == 0xf4 then some (3, 4, 0x80, 0x8f)
  else none

/--
The code point whose first bytes gave `n`, from `count` more bytes, of which the first lies within the
bounds. If that fails: how many bytes were right, and whether the text ended.
-/
def continuation (count n low high : Nat) (bs : List Nat) : Except (Nat × Bool) (Nat × List Nat) :=
  go count n low high 0 bs
where
  go : Nat → Nat → Nat → Nat → Nat → List Nat → Except (Nat × Bool) (Nat × List Nat)
    | 0, n, _, _, _, bs => .ok (n, bs)
    | _ + 1, _, _, _, found, [] => .error (found, true)
    | count + 1, n, low, high, found, b :: bs =>
      if low ≤ b && b ≤ high then go count (64 * n + (b - 0x80)) 0x80 0xbf (found + 1) bs
      else .error (found, false)

/--
The characters of bytes in UTF-8, or the first bytes that are none.
-/
def decode (bytes : List Nat) : Except Undecodable (List Char) :=
  go (bytes.length + 1) 0 bytes
where
  go : Nat → Nat → List Nat → Except Undecodable (List Char)
    | 0, _, _ => .ok []
    | _, _, [] => .ok []
    | fuel + 1, position, b :: bs =>
      match leadByte? b with
      | none => .error ⟨.invalidStart, position, 1, b⟩
      | some (count, n, low, high) =>
        match continuation count n low high bs with
        | .ok (n, rest) => (go fuel (position + count + 1) rest).map (Char.ofNat n :: ·)
        | .error (found, ended) =>
          .error ⟨if ended then .unexpectedEnd else .invalidContinuation, position, found + 1, b⟩

end CodeAudit.Text
