import CodeAudit.Data.Decimal
import CodeAudit.Data.Misuse

/-!
This module contains the sum of two values.
-/

namespace CodeAudit.Value

/--
A value as a number. The truth values count as one and zero.
-/
def number? : Value → Option (Int ⊕ Float)
  | .bool b => some (.inl (if b then 1 else 0))
  | .int n => some (.inl n)
  | .float x => some (.inr x)
  | _ => none

/--
The sum of an integer and a floating-point number.
-/
def addFloat (n : Int) (x : Float) : Except Misuse Value :=
  match floatOfInt? n with
  | some y => .ok (.float (y + x))
  | none => .error .tooLarge

/--
The sum of two numbers, or two texts or lists one after the other.
-/
def add (v w : Value) : Except Misuse Value :=
  match v.number?, w.number? with
  | some (.inl m), some (.inl n) => .ok (.int (m + n))
  | some (.inl m), some (.inr y) => addFloat m y
  | some (.inr x), some (.inl n) => addFloat n x
  | some (.inr x), some (.inr y) => .ok (.float (x + y))
  | _, _ =>
    match v, w with
    | .text s, .text t => .ok (.text (s ++ t))
    | .list vs, .list ws => .ok (.list (vs ++ ws))
    | .text _, w => .error (.noJoin v.kindName w.kindName)
    | .list _, w => .error (.noJoin v.kindName w.kindName)
    | v, w => .error (.noSum v.kindName w.kindName)

end CodeAudit.Value
