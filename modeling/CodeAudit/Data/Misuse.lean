import CodeAudit.Data.ReadError
import CodeAudit.Data.Value

/-!
This module contains what goes wrong when a value of one kind stands where another is needed.
-/

namespace CodeAudit

/--
A value of the wrong kind. The names of kinds are those of `Value.kindName`.
-/
inductive Misuse where
  /-- The members of the value are needed, and it has none. -/
  | noMembers (kind : String)
  /-- The fields of the value are needed as options, and it has none. -/
  | noFields (kind : String)
  /-- The value is needed to look something up, and it cannot be one. -/
  | noKey (kind : String)
  /-- The value is needed as a bound for an integer. -/
  | noBound (kind : String)
  /-- The value is needed as a path. -/
  | noPath (kind : String)
  /-- An operation is needed that values of this kind do not have. -/
  | noOperation (kind operation : String)
  /-- Two values are to be added that have no sum. -/
  | noSum (left right : String)
  /-- Something else is to be added to a text or a list. -/
  | noJoin (kind other : String)
  /-- An integer is too large for a sum with a floating-point number. -/
  | tooLarge
  /-- The value is asked for something in it, and it holds nothing. -/
  | noContents (kind : String)
  /-- A part of the value is asked for by name, and its parts have numbers. -/
  | numberedParts (kind : String)
  /-- The value is to be written as JSON, which has no text for it. -/
  | noText (m : Moment)
  /-- An integer is to be written that has more digits than are allowed. -/
  | tooLong
  deriving DecidableEq

/--
What is said about a value of the wrong kind.
-/
def Misuse.message : Misuse → String
  | .noMembers kind => "'" ++ kind ++ "' object is not iterable"
  | .noFields kind => "'" ++ kind ++ "' object is not a mapping"
  | .noKey kind => "unhashable type: '" ++ kind ++ "'"
  | .noBound kind => "'>' not supported between instances of 'int' and '" ++ kind ++ "'"
  | .noPath kind => "expected str, bytes or os.PathLike object, not " ++ kind
  | .noOperation kind operation => "'" ++ kind ++ "' object has no attribute '" ++ operation ++ "'"
  | .noSum left right =>
    "unsupported operand type(s) for +: '" ++ left ++ "' and '" ++ right ++ "'"
  | .noJoin kind other =>
    "can only concatenate " ++ kind ++ " (not \"" ++ other ++ "\") to " ++ kind
  | .tooLarge => "int too large to convert to float"
  | .noContents kind => "argument of type '" ++ kind ++ "' is not iterable"
  | .numberedParts kind =>
    if kind == "str" then "string indices must be integers, not 'str'"
    else kind ++ " indices must be integers or slices, not str"
  | .noText m => "Object of type " ++ m.name ++ " is not JSON serializable"
  | .tooLong => longIntegerMessage

namespace Value

/--
The members of a value one by one: those of a list, the characters of a text, the names of an object.
-/
def members : Value → Except Misuse (List Value)
  | .list vs => .ok vs
  | .text s => .ok (s.toList.map fun c => .text (String.ofList [c]))
  | .object fields => .ok (fields.map fun field => .text field.1)
  | v => .error (.noMembers v.kindName)

/--
The fields of an object, for an operation of the given name.
-/
def fieldsFor (operation : String) : Value → Except Misuse (Table Value)
  | .object fields => .ok fields
  | v => .error (.noOperation v.kindName operation)

/--
The text of a value that is used to look something up, if it is a text. Lists and objects cannot be
looked up.
-/
def lookupText? : Value → Except Misuse (Option String)
  | .text s => .ok (some s)
  | .list vs => .error (.noKey (Value.list vs).kindName)
  | .object fields => .error (.noKey (Value.object fields).kindName)
  | _ => .ok none

/--
The options that a value gives. A value that counts as not given gives none.
-/
def givenOptions : Value → Except Misuse (Table Value)
  | .object fields => .ok fields
  | v => if v.isGiven then .error (.noFields v.kindName) else .ok []

end Value

end CodeAudit
