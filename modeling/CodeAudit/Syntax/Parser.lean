import CodeAudit.Unicode.Normal
import CodeAudit.Syntax.Token
import CodeAudit.Syntax.Tree

/-!
This module contains parsers over tokens. A parser either fails or gives a value and the place that it
reached; a failed parser leaves its place to the next alternative.
-/

namespace CodeAudit.Syntax

/--
A place between two tokens.
-/
structure Cursor where
  /-- The tokens still to be read. -/
  tokens : List Token
  /-- The line on which the last visible token before this place ends. -/
  lastLine : Nat

namespace Cursor

/--
The place behind the next token `t`, where `rest` comes after it.
-/
def past (c : Cursor) (t : Token) (rest : List Token) : Cursor :=
  ⟨rest, if t.kind.isVisible then t.endLine else c.lastLine⟩

/--
The line of the next token. One that cannot be seen stands on the line of the last token before it.
-/
def line (c : Cursor) : Nat :=
  match c.tokens with
  | [] => c.lastLine
  | t :: _ => if t.kind.isVisible then t.line else c.lastLine

/--
The place with no lines for the tokens that cannot be seen.
-/
def unplaced (c : Cursor) : Cursor :=
  ⟨c.tokens.map Token.unplaced, c.lastLine⟩

theorem unplaced_past (c : Cursor) (t : Token) (rest : List Token)
    : (c.past t rest).unplaced = c.unplaced.past t.unplaced (rest.map Token.unplaced) := by
  unfold past unplaced Token.unplaced
  split
  . simp
  . simp

theorem unplaced_line (c : Cursor) : c.unplaced.line = c.line := by
  rcases c with ⟨tokens, lastLine⟩
  cases tokens with
  | nil => rfl
  | cons t rest =>
    unfold line unplaced Token.unplaced
    by_cases h : t.kind.isVisible
    . simp [h]
    . simp [h]

theorem unplaced_kind? (c : Cursor)
    : c.unplaced.tokens.head?.map (·.kind) = c.tokens.head?.map (·.kind) := by
  simp [unplaced, Function.comp_def]

theorem unplaced_secondKind? (c : Cursor)
    : c.unplaced.tokens.tail.head?.map (·.kind) = c.tokens.tail.head?.map (·.kind) := by
  simp [unplaced, ← List.map_tail, Function.comp_def]

/--
The second place is reached from the first by reading tokens.
-/
inductive Reaches : Cursor → Cursor → Prop where
  | here (c : Cursor) : Reaches c c
  | past {c c' : Cursor} {t : Token} {rest : List Token} (htokens : c.tokens = t :: rest)
      (h : Reaches (c.past t rest) c') : Reaches c c'

theorem Reaches.trans {c c' c'' : Cursor} (h : c.Reaches c') (h' : c'.Reaches c'') : c.Reaches c'' := by
  induction h with
  | here c => exact h'
  | past htokens _ ih => exact .past htokens (ih h')

end Cursor

/--
A parser of values of type `α`. The only way in which it can move is to read tokens, and what it reads does
not depend on the lines of tokens that cannot be seen.
-/
structure Parser (α : Type) where
  run : Cursor → Option (α × Cursor)
  reaches {c c' : Cursor} {a : α} (h : run c = some (a, c')) : c.Reaches c'
  unplaced (c : Cursor) : run c.unplaced = (run c).map (Prod.map id Cursor.unplaced)

namespace Parser

variable {α β : Type}

/--
Give a value without reading.
-/
def give (a : α) : Parser α where
  run c := some (a, c)
  reaches h := by
    cases h
    exact .here _
  unplaced c := rfl

/--
Look at the place without reading.
-/
def look (f : Cursor → α) (hf : ∀ c, f c.unplaced = f c) : Parser α where
  run c := some (f c, c)
  reaches h := by
    cases h
    exact .here _
  unplaced c := by
    rw [hf]
    rfl

/--
Read with one parser, and then with the parser that its value gives.
-/
def andThen (p : Parser α) (f : α → Parser β) : Parser β where
  run c :=
    match p.run c with
    | none => none
    | some (a, c') => (f a).run c'
  reaches {c c' b} h := by
    split at h
    . cases h
    . next a c₁ hp => exact (p.reaches hp).trans ((f a).reaches h)
  unplaced c := by
    rw [p.unplaced]
    cases p.run c with
    | none => rfl
    | some result => exact (f result.1).unplaced result.2

/--
Fail.
-/
def fail : Parser α where
  run _ := none
  reaches h := nomatch h
  unplaced _ := rfl

/--
Read with the second parser from the same place if the first fails.
-/
def orElse (p : Parser α) (q : Unit → Parser α) : Parser α where
  run c :=
    match p.run c with
    | none => (q ()).run c
    | some result => some result
  reaches {c c' a} h := by
    split at h
    . exact (q ()).reaches h
    . next result hp =>
      rw [h] at hp
      exact p.reaches hp
  unplaced c := by
    rw [p.unplaced]
    cases p.run c with
    | none => exact (q ()).unplaced c
    | some result => rfl

instance : Monad Parser where
  pure := give
  bind := andThen

instance : Alternative Parser where
  failure := fail
  orElse := orElse

/--
Give a value if there is one.
-/
def ofOption (a : Option α) : Parser α :=
  match a with
  | some a => give a
  | none => fail

/--
Read with a parser that is given how many rounds are enough where each of them reads a token.
-/
def inRounds (p : Nat → Parser α) : Parser α where
  run c := (p (c.tokens.length + 1)).run c
  reaches h := (p _).reaches h
  unplaced c := by
    have hlength : c.unplaced.tokens.length = c.tokens.length := List.length_map _
    rw [hlength]
    exact (p _).unplaced c

/--
What the next token is.
-/
def peek : Parser Token.Kind :=
  look (fun c => (c.tokens.head?.map (·.kind)).getD .endMarker) fun c => by rw [c.unplaced_kind?]

/--
What the token after the next is.
-/
def peekSecond : Parser Token.Kind :=
  look (fun c => (c.tokens.tail.head?.map (·.kind)).getD .endMarker) fun c => by
    rw [c.unplaced_secondKind?]

/--
Read one token, and say what it is.
-/
def next : Parser Token.Kind where
  run c :=
    match c.tokens with
    | [] => none
    | t :: rest => some (t.kind, c.past t rest)
  reaches {c c' kind} h := by
    split at h
    . cases h
    . next t rest htokens =>
      cases h
      exact .past htokens (.here _)
  unplaced c := by
    rcases c with ⟨tokens, lastLine⟩
    cases tokens with
    | nil => rfl
    | cons t rest =>
      dsimp only [Option.map, Prod.map]
      rw [Cursor.unplaced_past]
      simp [Cursor.unplaced]

/--
The line of the next token.
-/
def currentLine : Parser Nat :=
  look Cursor.line Cursor.unplaced_line

/--
The line on which the last visible token that was read ends.
-/
def lastLine : Parser Nat :=
  look (·.lastLine) fun _ => rfl

/--
Read one token if it satisfies `p`, and say whether it did.
-/
def accept? (p : Token.Kind → Bool) : Parser Bool := do
  if p (← peek) then
    let _ ← next
    return true
  else return false

end Parser

namespace Token.Kind

/-- The token is the symbol `s`. -/
def isSymbol (s : String) : Token.Kind → Bool
  | .symbol t => s == t
  | _ => false

/-- The token is the keyword `s`. -/
def isKeyword (s : String) : Token.Kind → Bool
  | .keyword t => s == t
  | _ => false

/-- The token is a name spelled `s`. -/
def isNamed (s : String) : Token.Kind → Bool
  | .name t => s == t
  | _ => false

/-- The token is the end of a line. -/
def isNewline : Token.Kind → Bool
  | .newline => true
  | _ => false

end Token.Kind

namespace Parser

variable {α : Type}

/-- Read the symbol `s` if it is next, and say whether it was. -/
def symbol? (s : String) : Parser Bool := accept? (·.isSymbol s)

/-- Read the keyword `s` if it is next, and say whether it was. -/
def keyword? (s : String) : Parser Bool := accept? (·.isKeyword s)

/-- Read the symbol `s`. -/
def symbol (s : String) : Parser Unit := do guard (← symbol? s)

/-- Read the keyword `s`. -/
def keyword (s : String) : Parser Unit := do guard (← keyword? s)

/-- Read a name spelled `s`. -/
def spelled (s : String) : Parser Unit := do guard (← accept? (·.isNamed s))

/-- Read the end of a line. -/
def newline : Parser Unit := do guard (← accept? (·.isNewline))

/--
Read a name, and give it in normal form.
-/
def identifier : Parser String := do
  match ← next with
  | .name text => return Unicode.normalForm text
  | _ => failure

/--
Read a name, and give it in normal form if that is not empty.
-/
def className : Parser { name : String // name ≠ "" } := do
  let name ← identifier
  if h : name ≠ "" then return ⟨name, h⟩ else failure

/--
Read with `p` as often as `more` says that there is more. Each round reads a token, so the number of
tokens bounds the rounds.
-/
def whileMore (more : Parser Bool) (p : Parser α) : Parser (List α) :=
  inRounds go
where
  go : Nat → Parser (List α)
    | 0 => failure
    | rounds + 1 => do
      if ← more then
        let a ← p
        let as ← go rounds
        return a :: as
      else return []

/--
Read one or more with `p`, until it fails.
-/
def many1 (p : Parser α) : Parser (List α) := do
  let a ← p
  let as ← inRounds go
  return a :: as
where
  go : Nat → Parser (List α)
    | 0 => return []
    | rounds + 1 => do
      match ← (some <$> p) <|> pure none with
      | none => return []
      | some a => return a :: (← go rounds)

/--
Read one or more with `p`, divided by the separator.
-/
def separated (separator : Parser Bool) (p : Parser α) : Parser (List α) := do
  return (← p) :: (← whileMore separator p)

/--
A comma after which the list goes on: says whether there is one. A comma that ends the list is read
too.
-/
def comma (ends : Token.Kind → Bool) : Parser Bool := do
  if ← symbol? "," then return !ends (← peek) else return false

/--
Read one or more with `p`, divided by commas; one more comma may stand at the end. Gives also whether
it does. The list ends after a comma if the next token satisfies `ends`.
-/
def commaList (ends : Token.Kind → Bool) (p : Parser α) : Parser (List α × Bool) :=
  inRounds go
where
  go : Nat → Parser (List α × Bool)
    | 0 => failure
    | rounds + 1 => do
      let a ← p
      if ← symbol? "," then
        if ends (← peek) then return ([a], true)
        else
          let (as, trailing) ← go rounds
          return (a :: as, trailing)
      else return ([a], false)

/--
Fold further operands into the first: as long as one of the operators is next, read it and an operand.
-/
def leftFold (operators : List String) (combine : α → α → α) (p : Parser α) : Parser α := do
  let first ← p
  let rest ← whileMore (accept? fun k => operators.any k.isSymbol) p
  return rest.foldl combine first

end Parser

end CodeAudit.Syntax
