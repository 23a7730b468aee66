import CodeAudit.Data.Table

/-!
This module contains the values that configuration files, options and replies hold. Their shape is not
known before they are looked at.
-/

namespace CodeAudit

/--
A point in time, of which only its kind matters here.
-/
inductive Moment where
  | date
  | time
  | dateTime
  deriving DecidableEq

/--
The name of the kind of a point in time.
-/
def Moment.name : Moment → String
  | .date => "date"
  | .time => "time"
  | .dateTime => "datetime"

/--
A value of a configuration file, an option or a reply.
-/
inductive Value where
  | null
  | bool (b : Bool)
  | int (n : Int)
  | float (x : Float)
  | text (s : String)
  | list (vs : List Value)
  | object (fields : List (String × Value))
  | moment (m : Moment)
  deriving Inhabited

namespace Value

/--
The name of the kind of a value, as messages give it.
-/
def kindName : Value → String
  | .null => "NoneType"
  | .bool _ => "bool"
  | .int _ => "int"
  | .float _ => "float"
  | .text _ => "str"
  | .list _ => "list"
  | .object _ => "dict"
  | .moment m => "datetime." ++ m.name

/--
Whether a value counts as given: not null, false, zero or empty.
-/
def isGiven : Value → Bool
  | .null => false
  | .bool b => b
  | .int n => n != 0
  | .float x => x != 0
  | .text s => s != ""
  | .list vs => !vs.isEmpty
  | .object fields => !fields.isEmpty
  | .moment _ => true

/--
The field of an object. A value that is no object has none.
-/
def field? (v : Value) (name : String) : Option Value :=
  match v with
  | .object fields => Table.get? fields name
  | _ => none

/--
No object in the value, however deep, has two fields of one name.
-/
inductive WellFormed : Value → Prop where
  | null : WellFormed .null
  | bool (b : Bool) : WellFormed (.bool b)
  | int (n : Int) : WellFormed (.int n)
  | float (x : Float) : WellFormed (.float x)
  | text (s : String) : WellFormed (.text s)
  | moment (m : Moment) : WellFormed (.moment m)
  | list {vs : List Value} (hvs : ∀ v ∈ vs, WellFormed v) : WellFormed (.list vs)
  | object {fields : Table Value} (hnames : fields.names.Nodup)
    (hfields : ∀ field ∈ fields, WellFormed field.2) : WellFormed (.object fields)

end Value

end CodeAudit
