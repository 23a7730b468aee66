import CodeAudit.Syntax.Lexer
import CodeAudit.Syntax.Literal
import CodeAudit.Syntax.Parser

/-!
This module contains the grammar of expressions. Each production is a parser that is given parsers for
the phrases nested in it, so the productions themselves are not recursive.
-/

namespace CodeAudit.Syntax

/--
The parsers for nested phrases.
-/
structure Nested where
  /-- An expression without a star, a comma or an assignment. -/
  expression : Parser Expr
  /-- An expression without a condition. -/
  disjunction : Parser Expr
  /-- An expression without `or`, `and`, `not` and comparisons. -/
  operand : Parser Expr
  /-- An operand with its signs. -/
  factor : Parser Expr
  /-- An operand without operators. -/
  primary : Parser Expr
  /-- A pattern of a `case`, given by the expressions in it. -/
  pattern : Parser (List Expr)
  /-- The statements of a block. -/
  statements : Parser (List Stmt)

namespace Grammar

open CodeAudit.Syntax.Parser

/-! ### Assignment targets -/

mutual

/--
Whether the expression can be assigned to. A star may stand before it.
-/
def isTarget : Expr → Bool
  | .other .starred [e] => isPlainTarget e
  | .name _ => true
  | .attribute _ _ => true
  | .other .subscript _ => true
  | .other .tuple es => areTargets es
  | .other .list es => areTargets es
  | _ => false

/--
Whether the expression can be assigned to and has no star before it.
-/
def isPlainTarget : Expr → Bool
  | .name _ => true
  | .attribute _ _ => true
  | .other .subscript _ => true
  | .other .tuple es => areTargets es
  | .other .list es => areTargets es
  | _ => false

/--
Whether all of the expressions can be assigned to.
-/
def areTargets : List Expr → Bool
  | [] => true
  | e :: es => isTarget e && areTargets es

end

/--
Whether the expression is a single place: a name, an attribute or a subscript.
-/
def isPlace : Expr → Bool
  | .name _ => true
  | .attribute _ _ => true
  | .other .subscript _ => true
  | _ => false

mutual

/--
Whether the expression can be deleted.
-/
def isDeletable : Expr → Bool
  | .name _ => true
  | .attribute _ _ => true
  | .other .subscript _ => true
  | .other .tuple es => areDeletable es
  | .other .list es => areDeletable es
  | _ => false

/--
Whether all of the expressions can be deleted.
-/
def areDeletable : List Expr → Bool
  | [] => true
  | e :: es => isDeletable e && areDeletable es

end

/--
Whether the expression has a star before it.
-/
def isStarred : Expr → Bool
  | .other .starred _ => true
  | _ => false

/-! ### Lists of expressions -/

/--
Whether an expression, perhaps with a star, can start with the token.
-/
def startsExpression : Token.Kind → Bool
  | .name _ => true
  | .number _ => true
  | .string _ => true
  | .keyword s => ["None", "True", "False", "not", "lambda", "await"].contains s
  | .symbol s => ["(", "[", "\x7b", "-", "+", "~", "...", "*"].contains s
  | _ => false

/--
One expression or several: several, or one with a comma after it, make a tuple.
-/
def tupleOrSingle (es : List Expr) (trailing : Bool) : Expr :=
  match es, trailing with
  | [e], false => e
  | es, _ => .other .tuple es

/--
Whether an assignment inside an expression is next.
-/
def atNamed : Parser Bool := do
  match ← peek, ← peekSecond with
  | .name _, .symbol ":=" => return true
  | _, _ => return false

/--
An expression, or an assignment inside an expression.
-/
def namedExpression (r : Nested) : Parser Expr := do
  if ← atNamed then
    let name ← identifier
    symbol ":="
    let value ← r.expression
    return .other .named [.name name, value]
  else r.expression

/--
An expression, or an operand with a star before it.
-/
def starExpression (r : Nested) : Parser Expr := do
  if ← symbol? "*" then return .other .starred [← r.operand] else r.expression

/--
A member of a display: an expression, an assignment or an operand with a star before it.
-/
def starNamedExpression (r : Nested) : Parser Expr := do
  if ← symbol? "*" then return .other .starred [← r.operand] else namedExpression r

/--
One or more expressions, perhaps with stars, as a statement may hold them.
-/
def starExpressions (r : Nested) : Parser Expr := do
  let (es, trailing) ← commaList (!startsExpression ·) (starExpression r)
  return tupleOrSingle es trailing

/--
`yield` with or without values.
-/
def yieldExpression (r : Nested) : Parser Expr := do
  keyword "yield"
  if ← keyword? "from" then return .other .yieldFrom [← r.expression]
  else if startsExpression (← peek) then return .other .yield [← starExpressions r]
  else return .other .yield []

/--
What a target starts with: a primary with or without a star.
-/
def starTarget (r : Nested) : Parser Expr := do
  let e ← (do
    if ← symbol? "*" then return .other .starred [← r.primary] else r.primary)
  guard (isTarget e)
  return e

/--
The targets of a loop.
-/
def starTargets (r : Nested) : Parser Expr := do
  let (es, trailing) ← commaList (!startsExpression ·) (starTarget r)
  return tupleOrSingle es trailing

/-! ### Comprehensions -/

/--
Whether a clause of a comprehension is next.
-/
def atClause : Parser Bool := do
  match ← peek, ← peekSecond with
  | .keyword "for", _ => return true
  | .keyword "async", .keyword "for" => return true
  | _, _ => return false

/--
One clause of a comprehension: its targets, what it ranges over and its conditions.
-/
def clause (r : Nested) : Parser (List Expr) := do
  let _ ← keyword? "async"
  keyword "for"
  let targets ← starTargets r
  keyword "in"
  let range ← r.disjunction
  let conditions ← whileMore (keyword? "if") r.disjunction
  return targets :: range :: conditions

/--
The clauses of a comprehension.
-/
def clauses (r : Nested) : Parser (List Expr) := do
  return (← whileMore atClause (clause r)).flatten

/-! ### Calls and subscripts -/

/--
How far the list of arguments of a call has come: after a named argument none is given by position,
and after a mapping no further sequence is unpacked.
-/
inductive ArgumentPhase where
  | positional
  | named
  | mapping
  deriving DecidableEq

/--
The arguments of a call or a class up to the closing parenthesis: those given by position, and the
values of the named ones. A single generator expression needs no parentheses of its own where
`generator` allows it.
-/
def arguments (r : Nested) (generator : Bool) : Parser (List Expr × List Expr) :=
  inRounds fun rounds => go rounds generator .positional
where
  go : Nat → Bool → ArgumentPhase → Parser (List Expr × List Expr)
    | 0, _, _ => failure
    | rounds + 1, generator, phase => do
      if (← peek).isSymbol ")" then return ([], [])
      else if ← symbol? "*" then
        guard (phase != .mapping)
        let e ← r.expression
        let (es, ks) ← more (go rounds false phase)
        return (.other .starred [e] :: es, ks)
      else if ← symbol? "**" then
        let k ← r.expression
        let (es, ks) ← more (go rounds false .mapping)
        return (es, k :: ks)
      else
        match ← peek, ← peekSecond with
        | .name _, .symbol "=" =>
          let _ ← next
          let _ ← next
          let k ← r.expression
          let (es, ks) ← more (go rounds false (if phase = .mapping then .mapping else .named))
          return (es, k :: ks)
        | _, _ =>
          guard (phase = .positional)
          let e ← namedExpression r
          if generator && (← atClause) then
            let cs ← clauses r
            guard ((← peek).isSymbol ")")
            return ([.other .generator (e :: cs)], [])
          else
            let (es, ks) ← more (go rounds false phase)
            return (e :: es, ks)
  /-- After an argument comes a comma, with further arguments, or the closing parenthesis. -/
  more (further : Parser (List Expr × List Expr)) : Parser (List Expr × List Expr) := do
    if ← symbol? "," then further
    else
      guard ((← peek).isSymbol ")")
      return ([], [])

/--
The rest of a slice from its first colon on, after the lower bound.
-/
def sliceBounds (r : Nested) (lower : List Expr) : Parser Expr := do
  symbol ":"
  let upper ← bound
  let step ← (do if ← symbol? ":" then bound else return [])
  return .other .slice (lower ++ upper ++ step)
where
  bound : Parser (List Expr) := do
    if startsExpression (← peek) then return [← r.expression] else return []

/--
One subscript: an index, a slice, or an expression with a star.
-/
def slice (r : Nested) : Parser Expr := do
  if (← peek).isSymbol ":" then sliceBounds r []
  else if ← symbol? "*" then return .other .starred [← r.expression]
  else if ← atNamed then namedExpression r
  else
    let e ← r.expression
    if (← peek).isSymbol ":" then sliceBounds r [e] else return e

/--
The subscripts between brackets.
-/
def slices (r : Nested) : Parser Expr := do
  let (es, trailing) ← commaList (·.isSymbol "]") (slice r)
  return tupleOrSingle es (trailing || es.any isStarred)

/-! ### Atoms -/

/--
The expression in a replacement field. It is read as if it stood in parentheses.
-/
def fieldValue? (r : Nested) (text : List Char) : Option Expr := do
  let tokens ← tokens? ('(' :: text ++ [')'])
  let (e, c) ← r.expression.run ⟨tokens, 0⟩
  if (c.tokens.head?.map (·.kind.isNewline)).getD true then some e else none

/--
The characters of a string literal that is not formatted.
-/
def plainText? (t : StringToken) : Option (List Nat) :=
  if t.isRaw then some (t.body.map (·.toNat)) else Literal.unescape? t.body

/--
Adjacent string literals. They are all of bytes or none is; if one is formatted then all together are.
-/
def stringLiterals? (r : Nested) (ts : List StringToken) : Option Expr :=
  if ts.all (·.isBytes) then
    if ts.all fun t => Literal.denotesBytes t.isRaw t.body then some .constant else none
  else if ts.any (·.isBytes) then none
  else if ts.any (·.isFormatted) then do
    let values ← ts.mapM fun t =>
      if t.isFormatted then do
        let texts ← Literal.fields? t.isRaw t.body
        texts.mapM (fieldValue? r)
      else (plainText? t).map fun _ => []
    return .other .formatted values.flatten
  else do
    let texts ← ts.mapM plainText?
    return .text (String.ofList (Literal.textOfCodePoints texts.flatten))

/--
Read one string literal.
-/
def stringToken : Parser StringToken := do
  match ← next with
  | .string t => return t
  | _ => failure

/--
Adjacent string literals.
-/
def strings (r : Nested) : Parser Expr := do
  let ts ← many1 stringToken
  ofOption (stringLiterals? r ts)

/--
What follows an opening parenthesis: a tuple, an expression in parentheses or a generator expression.
-/
def parenthesized (r : Nested) : Parser Expr := do
  if ← symbol? ")" then return .other .tuple []
  else if (← peek).isKeyword "yield" then
    let e ← yieldExpression r
    symbol ")"
    return e
  else
    let first ← starNamedExpression r
    if ← atClause then
      guard (!isStarred first)
      let cs ← clauses r
      symbol ")"
      return .other .generator (first :: cs)
    else if ← symbol? "," then
      if ← symbol? ")" then return .other .tuple [first]
      else
        let (es, _) ← commaList (·.isSymbol ")") (starNamedExpression r)
        symbol ")"
        return .other .tuple (first :: es)
    else
      guard (!isStarred first)
      symbol ")"
      return first

/--
What follows an opening bracket: a list or a list comprehension.
-/
def bracketed (r : Nested) : Parser Expr := do
  if ← symbol? "]" then return .other .list []
  else
    let first ← starNamedExpression r
    if ← atClause then
      guard (!isStarred first)
      let cs ← clauses r
      symbol "]"
      return .other .listComp (first :: cs)
    else
      let es ← whileMore (comma (·.isSymbol "]")) (starNamedExpression r)
      symbol "]"
      return .other .list (first :: es)

/--
One entry of a dictionary: a key with its value, or a mapping after two stars.
-/
def dictEntry (r : Nested) : Parser (List Expr) := do
  if ← symbol? "**" then return [← r.operand]
  else
    let key ← r.expression
    symbol ":"
    return [key, ← r.expression]

/--
The further entries of a dictionary and its closing brace.
-/
def dictRest (r : Nested) (first : List Expr) : Parser Expr := do
  let rest ← whileMore (comma (·.isSymbol "\x7d")) (dictEntry r)
  symbol "\x7d"
  return .other .dict (first ++ rest.flatten)

/--
The further members of a set and its closing brace.
-/
def setRest (r : Nested) (first : Expr) : Parser Expr := do
  let rest ← whileMore (comma (·.isSymbol "\x7d")) (starNamedExpression r)
  symbol "\x7d"
  return .other .set (first :: rest)

/--
What follows an opening brace: a dictionary, a set or a comprehension of one of them.
-/
def braced (r : Nested) : Parser Expr := do
  if ← symbol? "\x7d" then return .other .dict []
  else if ← symbol? "**" then dictRest r [← r.operand]
  else if ← symbol? "*" then setRest r (.other .starred [← r.operand])
  else
    let isNamed ← atNamed
    let first ← namedExpression r
    let isKey ← if isNamed then pure false else symbol? ":"
    if isKey then
      let value ← r.expression
      if ← atClause then
        let cs ← clauses r
        symbol "\x7d"
        return .other .dictComp (first :: value :: cs)
      else dictRest r [first, value]
    else if ← atClause then
      let cs ← clauses r
      symbol "\x7d"
      return .other .setComp (first :: cs)
    else setRest r first

/--
An expression that is not built from others by operators.
-/
def atom (r : Nested) : Parser Expr := do
  match ← peek with
  | .name _ => return .name (← identifier)
  | .string _ => strings r
  | .number _ =>
    let _ ← next
    return .constant
  | .keyword s =>
    guard (["None", "True", "False"].contains s)
    let _ ← next
    return .constant
  | .symbol "..." =>
    let _ ← next
    return .constant
  | .symbol "(" =>
    let _ ← next
    parenthesized r
  | .symbol "[" =>
    let _ ← next
    bracketed r
  | .symbol "\x7b" =>
    let _ ← next
    braced r
  | _ => failure

/-! ### Operators -/

/--
One step after a primary: an attribute, a call or a subscript. Gives what it makes of the primary.
-/
def trailer (r : Nested) : Parser (Expr → Expr) := do
  if ← symbol? "." then
    let attr ← identifier
    return fun e => .attribute e attr
  else if ← symbol? "(" then
    let (es, ks) ← arguments r true
    symbol ")"
    return fun e => .call e (es ++ ks)
  else
    symbol "["
    let index ← slices r
    symbol "]"
    return fun e => .other .subscript [e, index]

/--
Whether a step after a primary is next.
-/
def atTrailer : Parser Bool := do
  match ← peek with
  | .symbol s => return s == "." || s == "(" || s == "["
  | _ => return false

/--
An atom with attributes, calls and subscripts.
-/
def primary (r : Nested) : Parser Expr := do
  let e ← atom r
  let steps ← whileMore atTrailer (trailer r)
  return steps.foldl (fun e step => step e) e

/--
A primary, perhaps awaited, and perhaps raised to a power.
-/
def power (r : Nested) : Parser Expr := do
  let base ← (do
    if ← keyword? "await" then return .other .await [← primary r] else primary r)
  if ← symbol? "**" then return .other .binary [base, ← r.factor] else return base

/--
A power with signs before it.
-/
def factor (r : Nested) : Parser Expr := do
  if ← accept? fun k => k.isSymbol "-" || k.isSymbol "+" || k.isSymbol "~" then
    return .other .unary [← r.factor]
  else power r

/--
An operation on two operands.
-/
def binary (left right : Expr) : Expr := .other .binary [left, right]

/--
Operands joined by arithmetic and bitwise operators, each level of operators binding tighter than the
one after it.
-/
def operand (r : Nested) : Parser Expr :=
  [["*", "/", "//", "%", "@"], ["+", "-"], ["<<", ">>"], ["&"], ["^"], ["|"]].foldl
    (fun p operators => leftFold operators binary p) (factor r)

/--
Read a comparison operator if one is next, and say whether one was.
-/
def comparisonOperator? : Parser Bool := do
  match ← peek, ← peekSecond with
  | .symbol s, _ =>
    if ["==", "!=", "<=", "<", ">=", ">"].contains s then
      let _ ← next
      return true
    else return false
  | .keyword "in", _ =>
    let _ ← next
    return true
  | .keyword "is", .keyword "not" =>
    let _ ← next
    let _ ← next
    return true
  | .keyword "is", _ =>
    let _ ← next
    return true
  | .keyword "not", .keyword "in" =>
    let _ ← next
    let _ ← next
    return true
  | _, _ => return false

/--
Operands joined by comparison operators.
-/
def comparison (r : Nested) : Parser Expr := do
  let first ← operand r
  let rest ← whileMore comparisonOperator? (operand r)
  if rest.isEmpty then return first else return .other .compare (first :: rest)

/--
A comparison, perhaps negated.
-/
def inversion (r : Nested) : Parser Expr := do
  let negations ← whileMore (keyword? "not") (pure ())
  let e ← comparison r
  return negations.foldl (fun e _ => .other .unary [e]) e

/--
One operand, or the operands of a boolean operator.
-/
def booleanOrSingle : List Expr → Expr
  | [e] => e
  | es => .boolean es

/--
Inversions joined by `and`.
-/
def conjunction (r : Nested) : Parser Expr := do
  return booleanOrSingle (← separated (keyword? "and") (inversion r))

/--
Conjunctions joined by `or`.
-/
def disjunction (r : Nested) : Parser Expr := do
  return booleanOrSingle (← separated (keyword? "or") (conjunction r))

/-! ### Parameters -/

/--
How far a list of parameters has come: before any star, or after one. A star alone asks for a
parameter after it.
-/
inductive ParameterPhase where
  | ordinary
  | keywordOnly (needed : Bool)

/--
A declared name with the type that the declaration gives, where types can be given.
-/
def parameter (r : Nested) (hints star : Bool) : Parser Parameter := do
  let name ← identifier
  let hasHint ← if hints then symbol? ":" else pure false
  if hasHint then return ⟨name, some (← if star then starExpression r else r.expression)⟩
  else return ⟨name, none⟩

/--
The parameters of a function up to `stop`, which is not read.
-/
def parameters (r : Nested) (hints : Bool) (stop : String) : Parser Parameters :=
  inRounds fun rounds => go rounds .ordinary {}
where
  go : Nat → ParameterPhase → Parameters → Parser Parameters
    | 0, _, _ => failure
    | rounds + 1, phase, ps => do
      if (← peek).isSymbol stop then
        match phase with
        | .keywordOnly true => failure
        | _ => return ps
      else if ← symbol? "**" then
        match phase with
        | .keywordOnly true => failure
        | _ =>
          let p ← parameter r hints false
          let _ ← symbol? ","
          guard ((← peek).isSymbol stop)
          return { ps with keywordRest := some p }
      else if ← symbol? "*" then
        match phase with
        | .keywordOnly _ => failure
        | .ordinary =>
          if ← symbol? "," then go rounds (.keywordOnly true) ps
          else
            let p ← parameter r hints true
            more { ps with rest := some p } (go rounds (.keywordOnly false))
      else if ← symbol? "/" then
        match phase with
        | .keywordOnly _ => failure
        | .ordinary =>
          guard (ps.positionalOnly.isEmpty && !ps.ordinary.isEmpty)
          more { ps with positionalOnly := ps.ordinary, ordinary := [] } (go rounds .ordinary)
      else
        let p ← parameter r hints false
        let default ← (do if ← symbol? "=" then return [← r.expression] else return [])
        let ps := { ps with defaults := ps.defaults ++ default }
        match phase with
        | .ordinary =>
          guard (ps.defaults.isEmpty || !default.isEmpty)
          more { ps with ordinary := ps.ordinary ++ [p] } (go rounds .ordinary)
        | .keywordOnly _ =>
          more { ps with keywordOnly := ps.keywordOnly ++ [p] } (go rounds (.keywordOnly false))
  /-- After a parameter comes a comma, with further parameters, or the end. -/
  more (ps : Parameters) (further : Parameters → Parser Parameters) : Parser Parameters := do
    if ← symbol? "," then further ps
    else
      guard ((← peek).isSymbol stop)
      return ps

/-! ### Expressions -/

/--
A function without a name.
-/
def lambda (r : Nested) : Parser Expr := do
  keyword "lambda"
  let ps ← parameters r false ":"
  symbol ":"
  return .other .lambda (ps.defaults ++ [← r.expression])

/--
An expression without a star, a comma or an assignment.
-/
def expression (r : Nested) : Parser Expr := do
  if (← peek).isKeyword "lambda" then lambda r
  else
    let value ← disjunction r
    if ← keyword? "if" then
      let condition ← disjunction r
      keyword "else"
      return .other .conditional [condition, value, ← r.expression]
    else return value

end Grammar

end CodeAudit.Syntax
