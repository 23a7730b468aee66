import CodeAudit.Unicode.Decomposition

/-!
This module contains the compatibility normal form of a text: every character is decomposed, marks
are put into canonical order, and what composes is composed again. Two spellings of an identifier
with the same normal form are the same identifier.
-/

namespace CodeAudit.Unicode

namespace Hangul

/-- The first precomposed syllable. -/
def syllableBase : Nat := 0xac00
/-- The first leading consonant. -/
def leadBase : Nat := 0x1100
/-- The first vowel. -/
def vowelBase : Nat := 0x1161
/-- One before the first trailing consonant. -/
def trailBase : Nat := 0x11a7
/-- How many precomposed syllables there are. -/
def syllableCount : Nat := 11172

/--
The consonants and the vowel of a precomposed syllable.
-/
def decompose? (n : Nat) : Option (List Nat) :=
  if syllableBase ≤ n ∧ n < syllableBase + syllableCount then
    let i := n - syllableBase
    let pair := [leadBase + i / 588, vowelBase + i % 588 / 28]
    some (if i % 28 = 0 then pair else pair ++ [trailBase + i % 28])
  else none

/--
The syllable of a consonant and a vowel, or of a syllable without a trailing consonant and one.
-/
def compose? (a b : Nat) : Option Nat :=
  if leadBase ≤ a ∧ a < leadBase + 19 ∧ vowelBase ≤ b ∧ b < vowelBase + 21 then
    some (syllableBase + ((a - leadBase) * 21 + (b - vowelBase)) * 28)
  else if syllableBase ≤ a ∧ a < syllableBase + syllableCount ∧ (a - syllableBase) % 28 = 0 ∧
      trailBase < b ∧ b < trailBase + 28 then
    some (a + (b - trailBase))
  else none

end Hangul

/--
The full compatibility decomposition of a code point.
-/
def decompose (n : Nat) : List Nat :=
  match Hangul.decompose? n with
  | some parts => parts
  | none =>
    match decompositions.find? n with
    | none => [n]
    | some (first, [target]) => [target + (n - first)]
    | some (_, targets) => targets

/--
The canonical combining class of a code point; zero for a starter.
-/
def combiningClass (n : Nat) : Nat :=
  match combiningClasses.find? n with
  | none => 0
  | some (_, k) => k

/--
Put each run of marks into canonical order. The sort is stable.
-/
def reorder (ns : List Nat) : List Nat :=
  go [] ns
where
  /-- Keeps the marks of the current run in `marks`. -/
  go (marks : List Nat) : List Nat → List Nat
    | [] => flush marks
    | n :: rest =>
      if combiningClass n = 0 then flush marks ++ n :: go [] rest else go (marks ++ [n]) rest
  flush (marks : List Nat) : List Nat :=
    marks.mergeSort fun a b => combiningClass a ≤ combiningClass b

/--
The character to which two characters compose.
-/
def composePair? (a b : Nat) : Option Nat :=
  match Hangul.compose? a b with
  | some n => some n
  | none =>
    match compositions.find? a with
    | none => none
    | some (_, pairs) => (pairs.find? fun p => p.1 == b).map (·.2)

/--
Compose each starter with the marks and starters after it that nothing blocks.
-/
def compose : List Nat → List Nat
  | [] => []
  | n :: rest => if combiningClass n = 0 then go n [] 0 rest else n :: compose rest
where
  /-- Keeps a starter, the marks after it that did not compose, and the class of the last of them. -/
  go (starter : Nat) (marks : List Nat) (last : Nat) : List Nat → List Nat
    | [] => starter :: marks
    | n :: rest =>
      let k := combiningClass n
      let composite := if marks.isEmpty || last < k then composePair? starter n else none
      match composite with
      | some s => go s marks last rest
      | none =>
        if k = 0 then starter :: marks ++ go n [] 0 rest
        else go starter (marks ++ [n]) k rest

/--
The compatibility normal form of a text. A text in ASCII is in normal form.
-/
def normalForm (s : String) : String :=
  if s.toList.all (·.toNat < 128) then s
  else String.ofList ((compose (reorder (s.toList.flatMap (decompose ·.toNat)))).map Char.ofNat)

end CodeAudit.Unicode
