/-!
This module contains tables from names to values that keep the order in which names were first put
in. Putting a name in again changes its value and not its place.
-/

namespace CodeAudit

/--
Names with values, in the order in which they came.
-/
abbrev Table (α : Type) := List (String × α)

namespace Table

variable {α : Type}

/--
The value of a name.
-/
def get? (t : Table α) (name : String) : Option α :=
  List.lookup name t

/--
Whether the table has a value for the name.
-/
def has (t : Table α) (name : String) : Bool :=
  (t.get? name).isSome

/--
Put in a value for a name: at the place of the name if it has one, else at the end.
-/
def put (t : Table α) (name : String) (a : α) : Table α :=
  match t with
  | [] => [(name, a)]
  | (n, b) :: rest => if n == name then (n, a) :: rest else (n, b) :: put rest name a

/--
Take a name out.
-/
def remove (t : Table α) (name : String) : Table α :=
  t.filter fun entry => entry.1 != name

/--
The names in order.
-/
def names (t : Table α) : List String :=
  t.map (·.1)

/--
Put in all values of a second table, one after the other.
-/
def overlay (t u : Table α) : Table α :=
  u.foldl (fun t entry => t.put entry.1 entry.2) t

/--
The table of a list in which a name may come more than once; the last value counts.
-/
def ofList (entries : List (String × α)) : Table α :=
  overlay [] entries

end Table

end CodeAudit
