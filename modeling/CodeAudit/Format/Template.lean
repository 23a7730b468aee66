import CodeAudit.Format.Value

/-!
This module contains templates: texts with fields in braces, which are filled in with values. A brace
that is meant is written twice.
-/

namespace CodeAudit.Format

/--
A field of a template: its name, perhaps with parts, its conversion and its format.
-/
structure Field where
  name : List Char
  conversion : Option Char := none
  spec : List Char := []

/--
A piece of a template. After a fault nothing is read.
-/
inductive Piece where
  | literal (cs : List Char)
  | field (f : Field)
  | fault (e : Fault)

/-! ### Reading -/

/--
The name of a field, the character that ends it, and what follows. Between brackets nothing ends it.
-/
def fieldName (cs : List Char) : Except Fault (List Char × Char × List Char) :=
  go false [] cs
where
  go : Bool → List Char → List Char → Except Fault (List Char × Char × List Char)
    | _, _, [] => .error .openField
    | inBrackets, acc, c :: rest =>
      if inBrackets then go (c != ']') (c :: acc) rest
      else if c == '\x7b' then .error .braceInName
      else if c == '[' then go true (c :: acc) rest
      else if c == '\x7d' || c == ':' || c == '!' then .ok (acc.reverse, c, rest)
      else go false (c :: acc) rest

/--
The format of a field up to the brace that closes it, and what follows.
-/
def fieldSpec (cs : List Char) : Except Fault (List Char × List Char) :=
  go 0 [] cs
where
  /-- `depth` counts the braces that are open. -/
  go : Nat → List Char → List Char → Except Fault (List Char × List Char)
    | _, _, [] => .error .openFormat
    | depth, acc, c :: rest =>
      if c == '\x7b' then go (depth + 1) (c :: acc) rest
      else if c == '\x7d' then
        match depth with
        | 0 => .ok (acc.reverse, rest)
        | depth + 1 => go depth (c :: acc) rest
      else go depth (c :: acc) rest

/--
A field after the brace that opens it, and what follows.
-/
def field (cs : List Char) : Except Fault (Field × List Char) := do
  match ← fieldName cs with
  | (name, ':', rest) =>
    let (spec, rest) ← fieldSpec rest
    return ({ name, spec }, rest)
  | (name, '!', rest) =>
    match rest with
    | [] => throw .noConversion
    | [_] => throw .openFormat
    | c :: '\x7d' :: rest => return ({ name, conversion := some c }, rest)
    | c :: ':' :: rest =>
      let (spec, rest) ← fieldSpec rest
      return ({ name, conversion := some c, spec }, rest)
    | _ => throw .afterConversion
  | (name, _, rest) => return ({ name }, rest)

/--
Whether `c` is a brace.
-/
def isBrace (c : Char) : Bool :=
  c == '\x7b' || c == '\x7d'

/--
The pieces of a template.
-/
def pieces (cs : List Char) : List Piece :=
  go (cs.length + 1) cs
where
  /-- Each step reads a character, so the length of the template is enough fuel. -/
  go : Nat → List Char → List Piece
    | 0, _ => []
    | fuel + 1, cs =>
      let text := cs.takeWhile (!isBrace ·)
      match cs.drop text.length with
      | [] => if text.isEmpty then [] else [.literal text]
      | [c] => [.fault (.loneBrace c)]
      | c :: d :: rest =>
        if c == d then .literal (text ++ [c]) :: go fuel rest
        else if c == '\x7d' then [.fault (.loneBrace c)]
        else
          match field (d :: rest) with
          | .ok (f, rest) => .literal text :: .field f :: go fuel rest
          | .error e => [.fault e]

/-! ### Names -/

/--
A whole number as the name of a field or a part.
-/
def nameNumber? (cs : List Char) : Except Fault (Option Nat) := do
  match ← number? cs with
  | (some n, []) => return some n
  | _ => return none

/--
Follow the names of parts from a value.
-/
def followParts : Nat → Value → List Char → Except Fault Value
  | 0, v, _ => .ok v
  | _, v, [] => .ok v
  | fuel + 1, v, '.' :: rest => do
    let name := rest.takeWhile fun c => c != '.' && c != '['
    if name.isEmpty then throw .emptyPart
    followParts fuel (← attributeOf v (String.ofList name)) (rest.drop name.length)
  | fuel + 1, v, '[' :: rest => do
    let name := rest.takeWhile (· != ']')
    match rest.drop name.length with
    | [] => throw .openBracket
    | _ :: rest =>
      let number ← nameNumber? name
      if name.isEmpty then throw .emptyPart
      let part ← match number with
        | some n => numberedPart v n
        | none => namedPart v (String.ofList name)
      followParts fuel part rest
  | _, _, _ => .error .afterBracket

/--
The value that the name of a field stands for.
-/
def lookup (values : Table Value) (name : List Char) : Except Fault Value := do
  let first := name.takeWhile fun c => c != '.' && c != '['
  if first.isEmpty then throw (.position 0)
  match ← nameNumber? first with
  | some n => throw (.position n)
  | none =>
    match values.get? (String.ofList first) with
    | some v => followParts (name.length + 1) v (name.drop first.length)
    | none => throw (.unknownName (String.ofList first))

/-! ### Filling in -/

/--
Fill in the pieces of a template one after the other. A format may itself have fields, but those have
only plain formats: `depth` says how deep fields may lie.
-/
def fill (values : Table Value) : Nat → List Piece → Except Fault (List Char)
  | 0, _ => .error .tooDeep
  | _ + 1, [] => .ok []
  | depth + 1, piece :: rest => do
    let text ← match piece with
      | .literal cs => pure cs
      | .fault e => throw e
      | .field f =>
        let v ← lookup values f.name
        let v ← match f.conversion with
          | some c => convert c v
          | none => pure v
        let spec ← if f.spec.contains '\x7b' then fill values depth (pieces f.spec) else pure f.spec
        formatValue v spec
    return text ++ (← fill values (depth + 1) rest)
termination_by depth pieces => (depth, pieces.length)

/--
Fill in a template with values.
-/
def render (template : List Char) (values : Table Value) : Except Fault (List Char) :=
  fill values 2 (pieces template)

end CodeAudit.Format
