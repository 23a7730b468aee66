import CodeAudit.Syntax.Grammar.Expression

/-!
This module contains the grammar of the patterns of a `case`. A pattern is given by the expressions in
it, since nothing else of it is analysed.
-/

namespace CodeAudit.Syntax.Grammar

open CodeAudit.Syntax.Parser

/--
Read a name that a pattern binds. It is not the wildcard, and nothing follows that would make it part
of a longer phrase.
-/
def captureName : Parser Unit := do
  match ← peek, ← peekSecond with
  | .name text, after =>
    guard (text != "_")
    guard (!(after.isSymbol "." || after.isSymbol "(" || after.isSymbol "="))
    let _ ← next
    return ()
  | _, _ => failure

/--
Read a number, and say whether it is imaginary.
-/
def number : Parser Bool := do
  match ← next with
  | .number imaginary => return imaginary
  | _ => failure

/--
A number with an optional sign, or the sum or difference of a real and an imaginary number.
-/
def numberPattern : Parser (List Expr) := do
  let _ ← symbol? "-"
  let imaginary ← number
  if ← accept? fun k => k.isSymbol "+" || k.isSymbol "-" then
    guard (!imaginary)
    guard (← number)
    return [.constant, .constant]
  else return [.constant]

/--
A literal: a number, strings or a named constant.
-/
def literalPattern (r : Nested) : Parser (List Expr) := do
  match ← peek with
  | .string _ => return [← strings r]
  | .keyword s =>
    guard (["None", "True", "False"].contains s)
    let _ ← next
    return [.constant]
  | _ => numberPattern

/--
A name with attributes, at least one if `dotted` asks for it.
-/
def dottedName (dotted : Bool) : Parser Expr := do
  let first ← identifier
  let attrs ← whileMore (symbol? ".") identifier
  guard (!dotted || !attrs.isEmpty)
  return attrs.foldl .attribute (.name first)

/--
A pattern, or a star with a name or the wildcard. Gives also whether it had a star.
-/
def maybeStarPattern (r : Nested) : Parser (List Expr × Bool) := do
  if ← symbol? "*" then
    if (← peek).isNamed "_" then
      let _ ← next
    else captureName
    return ([], true)
  else return (← r.pattern, false)

/--
The members of a sequence pattern up to `stop`, which is not read.
-/
def sequencePattern (r : Nested) (stop : Token.Kind → Bool) : Parser (List Expr) := do
  if stop (← peek) then return []
  else
    let (members, _) ← commaList stop (maybeStarPattern r)
    return (members.map (·.1)).flatten

/--
What follows an opening parenthesis: a sequence pattern or a pattern in parentheses.
-/
def parenthesizedPattern (r : Nested) : Parser (List Expr) := do
  if ← symbol? ")" then return []
  else
    let (first, star) ← maybeStarPattern r
    if ← symbol? "," then
      let rest ← sequencePattern r (·.isSymbol ")")
      symbol ")"
      return first ++ rest
    else
      guard (!star)
      symbol ")"
      return first

/--
What follows an opening brace: keys with patterns, and perhaps a name for what is left over.
-/
def mappingPattern (r : Nested) : Parser (List Expr) :=
  inRounds go
where
  go : Nat → Parser (List Expr)
    | 0 => failure
    | rounds + 1 => do
      if ← symbol? "\x7d" then return []
      else if ← symbol? "**" then
        captureName
        let _ ← symbol? ","
        symbol "\x7d"
        return []
      else
        let key ← (do
          match ← peek with
          | .name _ => return [← dottedName true]
          | _ => literalPattern r)
        symbol ":"
        let value ← r.pattern
        if ← symbol? "," then return key ++ value ++ (← go rounds)
        else
          symbol "\x7d"
          return key ++ value

/--
The arguments of a class pattern: patterns, and after them patterns with names.
-/
def classPatternArguments (r : Nested) : Parser (List Expr) :=
  inRounds fun rounds => go rounds false
where
  go : Nat → Bool → Parser (List Expr)
    | 0, _ => failure
    | rounds + 1, named => do
      if ← symbol? ")" then return []
      else
        let isNamed ← (do
          match ← peek, ← peekSecond with
          | .name _, .symbol "=" =>
            let _ ← next
            let _ ← next
            return true
          | _, _ => return false)
        guard (isNamed || !named)
        let value ← r.pattern
        if ← symbol? "," then return value ++ (← go rounds isNamed)
        else
          symbol ")"
          return value

/--
A pattern without `as` and alternatives.
-/
def closedPattern (r : Nested) : Parser (List Expr) := do
  match ← peek, ← peekSecond with
  | .name "_", _ =>
    let _ ← next
    return []
  | .name _, after =>
    if after.isSymbol "." || after.isSymbol "(" then
      let e ← dottedName false
      if ← symbol? "(" then return e :: (← classPatternArguments r)
      else
        guard (!(← peek).isSymbol "=")
        return [e]
    else
      captureName
      return []
  | .symbol "(", _ =>
    let _ ← next
    parenthesizedPattern r
  | .symbol "[", _ =>
    let _ ← next
    let members ← sequencePattern r (·.isSymbol "]")
    symbol "]"
    return members
  | .symbol "\x7b", _ =>
    let _ ← next
    mappingPattern r
  | _, _ => literalPattern r

/--
A pattern: alternatives, and perhaps a name for what they match.
-/
def pattern (r : Nested) : Parser (List Expr) := do
  let alternatives ← separated (symbol? "|") (closedPattern r)
  if ← keyword? "as" then captureName
  return alternatives.flatten

/--
The patterns of a `case`: a pattern, or a sequence without brackets.
-/
def patterns (r : Nested) : Parser (List Expr) := do
  let (first, star) ← maybeStarPattern r
  if ← symbol? "," then
    let rest ← sequencePattern r fun k => k.isSymbol ":" || k.isKeyword "if"
    return first ++ rest
  else
    guard (!star)
    return first

end CodeAudit.Syntax.Grammar
