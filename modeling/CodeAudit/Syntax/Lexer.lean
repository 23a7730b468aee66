import CodeAudit.Unicode.Identifier
import CodeAudit.Syntax.Number
import CodeAudit.Syntax.Token
import CodeAudit.Text.Lines

/-!
This module contains the scanner that turns Python source text into tokens. Single tokens are read
from the text alone; the scanner around them keeps track of lines, indentation and open brackets.
-/

namespace CodeAudit.Syntax

namespace Lexer

/-! ### Line ends -/

/--
The text that is scanned. A last line without a line end gets one, and so does a text that ends in a
carriage return with a line feed.
-/
def physicalText (cs : List Char) : List Char :=
  let text := Text.unifyLineEnds cs
  match cs.reverse with
  | '\n' :: '\r' :: _ => text ++ ['\n']
  | '\n' :: _ | '\r' :: _ => text
  | _ => text ++ ['\n']

/-! ### Single tokens -/

/--
Whether `c` can start a word. Characters outside ASCII are judged when the word is complete.
-/
def startsWord (c : Char) : Bool :=
  c.isAlpha || c == '_' || c.toNat ≥ 128

/--
Whether the characters are an identifier.
-/
def isIdentifier : List Char → Bool
  | [] => false
  | c :: rest => Unicode.isIdentifierStart c && rest.all Unicode.isIdentifierContinue

/--
The characters of a string up to its closing quotes, and what follows them. A backslash takes the next
character with it, and only a string in triple quotes may hold a line end.
-/
def stringBody (quote : Char) (triple : Bool) (acc : List Char) :
    List Char → Option (List Char × List Char)
  | [] => none
  | ['\\'] => none
  | '\\' :: c :: rest => stringBody quote triple (c :: '\\' :: acc) rest
  | c :: rest =>
    if c == quote && (!triple || [quote, quote].isPrefixOf rest) then
      some (acc.reverse, if triple then rest.drop 2 else rest)
    else if c == '\n' && !triple then none
    else stringBody quote triple (c :: acc) rest

/--
The string whose first quote is `quote` and stands before `cs`.
-/
def quoted (quote : Char) (cs : List Char) : Option (List Char × List Char) :=
  match cs with
  | c₁ :: c₂ :: rest =>
    if c₁ == quote then
      if c₂ == quote then stringBody quote true [] rest else some ([], c₂ :: rest)
    else stringBody quote false [] cs
  | [c] => if c == quote then some ([], []) else none
  | [] => none

/--
The letters that may stand in front of a string, in lower case: what they say of bytes, raw text and
formatting.
-/
def stringLetters? (letters : List Char) : Option (Bool × Bool × Bool) :=
  match letters.map Char.toLower with
  | [] | ['u'] => some (false, false, false)
  | ['r'] => some (false, true, false)
  | ['b'] => some (true, false, false)
  | ['f'] => some (false, false, true)
  | ['b', 'r'] | ['r', 'b'] => some (true, true, false)
  | ['f', 'r'] | ['r', 'f'] => some (false, true, true)
  | _ => none

/--
The symbols of three, two and one characters, the longer ones first.
-/
def symbols : List (List Char) :=
  ["**=", "...", "//=", "<<=", ">>=",
    "!=", "%=", "&=", "**", "*=", "+=", "-=", "->", "//", "/=", ":=", "<<", "<=", "==", ">=", ">>",
    "@=", "^=", "|=",
    "%", "&", "(", ")", "*", "+", ",", "-", ".", "/", ":", ";", "<", "=", ">", "@", "[", "]", "^",
    "\x7b", "|", "\x7d", "~"].map String.toList

/--
The first symbol in the list with which the text starts.
-/
def symbol? (cs : List Char) : Option (List Char) :=
  symbols.find? (·.isPrefixOf cs)

/--
Read a word at the start of the text, or the string that it stands in front of.
-/
def word? (cs : List Char) : Option (Token.Kind × List Char) :=
  let word := cs.takeWhile Number.continuesName
  let rest := cs.drop word.length
  match stringLetters? word, rest with
  | some (isBytes, isRaw, isFormatted), q :: rest' =>
    if q == '"' || q == '\'' then
      (quoted q rest').map fun (body, rest'') => (.string ⟨isBytes, isRaw, isFormatted, body⟩, rest'')
    else some (.ofWord (String.ofList word), rest)
  | _, _ => if isIdentifier word then some (.ofWord (String.ofList word), rest) else none

/--
Read a string, a word, a number or a symbol at the start of the text: what it is and what follows.
-/
def token? (cs : List Char) : Option (Token.Kind × List Char) :=
  match cs with
  | [] => none
  | c :: rest =>
    if c == '"' || c == '\'' then
      (quoted c rest).map fun (body, rest') => (.string ⟨false, false, false, body⟩, rest')
    else if startsWord c then word? cs
    else if c.isDigit || (c == '.' && (rest.head?.any Char.isDigit)) then
      (Number.scan cs).map fun (imaginary, rest') => (.number imaginary, rest')
    else
      (symbol? cs).map fun s => (.symbol (String.ofList s), cs.drop s.length)

/-! ### Indentation -/

/--
How far a line is indented. Tabs reach the next multiple of eight for `column` and of one for
`narrow`, so that a line on which the two readings disagree can be refused.
-/
structure Indentation where
  column : Nat
  narrow : Nat
  deriving DecidableEq

/--
Measure the indentation at the start of a line. A backslash before the end of a line joins the next
one; where the first such backslash is indented, it decides. Gives the indentation, how many lines
were joined, and the text after the indentation.
-/
def indentation (cs : List Char) : Option (Indentation × Nat × List Char) :=
  go ⟨0, 0⟩ 0 0 cs
where
  go (at_ : Indentation) (first : Nat) (joined : Nat) :
      List Char → Option (Indentation × Nat × List Char)
    | ' ' :: rest => go ⟨at_.column + 1, at_.narrow + 1⟩ first joined rest
    | '\t' :: rest => go ⟨(at_.column / 8 + 1) * 8, at_.narrow + 1⟩ first joined rest
    | '\x0c' :: rest => go ⟨0, 0⟩ first joined rest
    | '\\' :: '\n' :: c :: rest =>
      go at_ (if first = 0 then at_.column else first) (joined + 1) (c :: rest)
    | '\\' :: _ => none
    | rest => some (if first = 0 then at_ else ⟨first, first⟩, joined, rest)

/--
The most indentations that may be open at once.
-/
def maxIndents : Nat := 99

/--
The marks that a line leaves which is indented by `i` where the indentations `stack` are open, the
innermost first, and the indentations open after it.
-/
def indentTokens (i : Indentation) (stack : List Indentation) :
    Option (List Token.Kind × List Indentation) :=
  let top := stack.head?.getD ⟨0, 0⟩
  if i.column = top.column then
    if i.narrow = top.narrow then some ([], stack) else none
  else if top.column < i.column then
    if maxIndents ≤ stack.length || i.narrow ≤ top.narrow then none
    else some ([.indent], i :: stack)
  else
    let kept := stack.dropWhile fun s => i.column < s.column
    if kept.head?.getD ⟨0, 0⟩ = i then
      some (List.replicate (stack.length - kept.length) .dedent, kept)
    else none

/-! ### The scanner -/

/--
What the scanner knows at a place in the text.
-/
structure State where
  /-- The line, counted from one. -/
  line : Nat
  /-- The open indentations, the innermost first. -/
  indents : List Indentation
  /-- The open brackets, the innermost first. -/
  brackets : List String
  /-- The place is the start of a line. -/
  lineStart : Bool

/--
The most brackets that may be open at once.
-/
def maxBrackets : Nat := 200

/--
The brackets that open, each with the one that closes it.
-/
def bracketPairs : List (String × String) :=
  [("(", ")"), ("[", "]"), ("\x7b", "\x7d")]

/--
The open brackets after a token, where those in `opened` were open before it.
-/
def brackets? (kind : Token.Kind) (opened : List String) : Option (List String) :=
  match kind with
  | .symbol s =>
    if bracketPairs.any (·.1 == s) then
      if maxBrackets ≤ opened.length then none else some (s :: opened)
    else
      match bracketPairs.find? (·.2 == s), opened with
      | none, _ => some opened
      | some (o, _), t :: rest => if o == t then some rest else none
      | some _, [] => none
  | _ => some opened

/--
How many line ends stand in the text between two places.
-/
def linesBetween (start stop : List Char) : Nat :=
  (start.take (start.length - stop.length)).count '\n'

/--
Whether `c` may stand between two tokens on a line.
-/
def isGap (c : Char) : Bool :=
  c == ' ' || c == '\t' || c == '\x0c'

/--
Drop a comment, up to the end of its line.
-/
def skipComment (cs : List Char) : List Char :=
  match cs with
  | '#' :: _ => cs.dropWhile (· != '\n')
  | _ => cs

/--
What a step of the scanner comes to.
-/
inductive Step where
  /-- The text cannot be divided into tokens. -/
  | fault
  /-- The text ends with these tokens. -/
  | done (tokens : List Token)
  /-- These tokens were read, and the scanner goes on at another place. -/
  | more (tokens : List Token) (s : State) (rest : List Char)

/--
The step at the start of a line that is indented by `i`, from the first thing on it that counts.
-/
def lineStep (s : State) (i : Indentation) : List Char → Step
  | '\n' :: rest => .more [] { s with line := s.line + 1, lineStart := true } rest
  | cs =>
    if s.brackets.isEmpty then
      match indentTokens i s.indents with
      | none => .fault
      | some (marks, indents) => .more (marks.map fun kind => ⟨kind, s.line, s.line⟩) { s with indents } cs
    else .more [] s cs

/--
The step over a token at the start of the text.
-/
def tokenStep (s : State) (cs : List Char) : Step :=
  match token? cs with
  | none => .fault
  | some (kind, rest) =>
    match brackets? kind s.brackets with
    | none => .fault
    | some brackets =>
      let line := match kind with
        | .string _ => s.line + linesBetween cs rest
        | _ => s.line
      .more [⟨kind, s.line, line⟩] { s with line, brackets } rest

/--
The step within a line, from the next thing on it that counts.
-/
def innerStep (s : State) : List Char → Step
  | [] => if s.brackets.isEmpty then .done [⟨.endMarker, s.line, s.line⟩] else .fault
  | '\n' :: rest =>
    .more (if s.brackets.isEmpty then [⟨.newline, s.line, s.line⟩] else [])
      { s with line := s.line + 1, lineStart := true } rest
  | '\\' :: '\n' :: c :: rest => .more [] { s with line := s.line + 1 } (c :: rest)
  | '\\' :: _ => .fault
  | cs => tokenStep s cs

/--
One step of the scanner: the indentation at the start of a line, or else one token, a line end or the end
of the text.
-/
def step (s : State) (cs : List Char) : Step :=
  if s.lineStart then
    match indentation cs with
    | none => .fault
    | some (i, joined, rest) =>
      lineStep { s with line := s.line + joined, lineStart := false } i (skipComment rest)
  else innerStep s (skipComment (cs.dropWhile isGap))

/--
Read the tokens of a text. Each step reads at least one character or leaves the start of a line, so
`fuel` beyond twice the length of the text is enough.
-/
def tokensFrom (fuel : Nat) (s : State) (cs : List Char) : Option (List Token) :=
  match fuel with
  | 0 => none
  | fuel + 1 =>
    match step s cs with
    | .fault => none
    | .done tokens => some tokens
    | .more tokens s rest => (tokensFrom fuel s rest).map (tokens ++ ·)

end Lexer

/--
The tokens of a source text, or nothing if the text cannot be divided into tokens.
-/
def tokens? (cs : List Char) : Option (List Token) :=
  if cs.contains '\x00' then none
  else
    let text := Lexer.physicalText cs
    Lexer.tokensFrom (2 * text.length + 2) ⟨1, [], [], true⟩ text

end CodeAudit.Syntax
