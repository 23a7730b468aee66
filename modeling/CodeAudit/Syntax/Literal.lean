import CodeAudit.Unicode.Name
import CodeAudit.Syntax.Number

/-!
This module contains what stands between the quotes of a string literal: the escapes of text and
bytes, and the replacement fields of formatted literals.
-/

namespace CodeAudit.Syntax.Literal

/-! ### Escapes -/

/--
The value of a hexadecimal digit in either case.
-/
def hexValue? (c : Char) : Option Nat :=
  if c.isDigit then some (c.toNat - '0'.toNat)
  else if 'a' ≤ c && c ≤ 'f' then some (c.toNat - 'a'.toNat + 10)
  else if 'A' ≤ c && c ≤ 'F' then some (c.toNat - 'A'.toNat + 10)
  else none

/--
The number that exactly `count` hexadecimal digits denote, and what follows them.
-/
def hexDigits? (count : Nat) (cs : List Char) : Option (Nat × List Char) :=
  go count 0 cs
where
  go : Nat → Nat → List Char → Option (Nat × List Char)
    | 0, n, cs => some (n, cs)
    | _ + 1, _, [] => none
    | k + 1, n, c :: rest => (hexValue? c).bind fun d => go k (16 * n + d) rest

/--
The number that at most three octal digits denote, and what follows them.
-/
def octalDigits (cs : List Char) : Nat × List Char :=
  let digits := (cs.take 3).takeWhile fun c => '0' ≤ c && c ≤ '7'
  (digits.foldl (fun n c => 8 * n + (c.toNat - '0'.toNat)) 0, cs.drop digits.length)

/--
The escapes of one letter that denote a control character.
-/
def controlEscapes : List (Char × Nat) :=
  [('a', 7), ('b', 8), ('f', 12), ('n', 10), ('r', 13), ('t', 9), ('v', 11)]

/--
What a backslash before `cs` denotes in text, as code points, and what follows the escape. A backslash
before a character that makes no escape stands for itself. Nothing if the escape is broken.
-/
def escape? (cs : List Char) : Option (List Nat × List Char) :=
  match cs with
  | [] => some (['\\'.toNat], [])
  | '\n' :: rest => some ([], rest)
  | 'x' :: rest => (hexDigits? 2 rest).map fun (n, rest) => ([n], rest)
  | 'u' :: rest => (hexDigits? 4 rest).map fun (n, rest) => ([n], rest)
  | 'U' :: rest =>
    match hexDigits? 8 rest with
    | some (n, rest) => if n ≤ 0x10ffff then some ([n], rest) else none
    | none => none
  | 'N' :: '\x7b' :: rest =>
    let name := rest.takeWhile (· != '\x7d')
    match rest.drop name.length, Unicode.characterNamed? name with
    | _ :: rest, some n => some ([n], rest)
    | _, _ => none
  | 'N' :: _ => none
  | c :: rest =>
    if '0' ≤ c && c ≤ '7' then
      let (n, rest) := octalDigits cs
      some ([n], rest)
    else if c == '\\' || c == '\'' || c == '"' then some ([c.toNat], rest)
    else
      match controlEscapes.lookup c with
      | some n => some ([n], rest)
      | none => some (['\\'.toNat, c.toNat], rest)

/--
The code points of text with escapes, or nothing if an escape is broken. No escape is longer than the
text, so the length of the text bounds the steps.
-/
def unescape? (cs : List Char) : Option (List Nat) :=
  go cs.length cs
where
  go : Nat → List Char → Option (List Nat)
    | 0, _ => some []
    | _, [] => some []
    | fuel + 1, '\\' :: rest =>
      (escape? rest).bind fun (ns, rest) => (go fuel rest).map (ns ++ ·)
    | fuel + 1, c :: rest => (go fuel rest).map (c.toNat :: ·)

/--
Whether the characters of a bytes literal denote bytes: all are ASCII, and where escapes are read,
each `\x` has two digits.
-/
def denotesBytes (isRaw : Bool) (cs : List Char) : Bool :=
  cs.all (·.toNat < 128) && (isRaw || escapesAreComplete cs)
where
  escapesAreComplete : List Char → Bool
    | '\\' :: 'x' :: a :: b :: rest =>
      Number.isHexDigit a && Number.isHexDigit b && escapesAreComplete rest
    | '\\' :: 'x' :: _ => false
    | '\\' :: _ :: rest => escapesAreComplete rest
    | _ :: rest => escapesAreComplete rest
    | [] => true

/--
The text with the given code points. Two surrogates that belong together denote one character.
-/
def textOfCodePoints : List Nat → List Char
  | hi :: lo :: rest =>
    if 0xd800 ≤ hi && hi < 0xdc00 && 0xdc00 ≤ lo && lo < 0xe000 then
      Char.ofNat (0x10000 + (hi - 0xd800) * 0x400 + (lo - 0xdc00)) :: textOfCodePoints rest
    else single hi :: textOfCodePoints (lo :: rest)
  | [n] => [single n]
  | [] => []
where
  /-- A surrogate alone has no character; the replacement character stands for it. -/
  single (n : Nat) : Char :=
    if 0xd800 ≤ n && n < 0xe000 then Char.ofNat 0xfffd else Char.ofNat n

/-! ### Formatted literals -/

/--
Whether the text starts with `count` characters `c`.
-/
def startsWith (c : Char) (count : Nat) (cs : List Char) : Bool :=
  (List.replicate count c).isPrefixOf cs

/--
The expression of a replacement field, up to the mark that ends it: an exclamation mark, a colon, an
equals sign or a closing brace outside all brackets and quotes. Gives the expression and the text from
that mark on. Backslashes and hash signs are refused. The next `skip` characters belong to a mark that
was already seen, `quote` holds the quotes of the string that the place is in, and whether they are
triple, and `opened` the open brackets.
-/
def fieldExpression (skip : Nat) (quote : Option (Char × Bool)) (opened acc : List Char) :
    List Char → Option (List Char × List Char)
  | [] => none
  | c :: rest =>
    if 0 < skip then fieldExpression (skip - 1) quote opened (c :: acc) rest
    else if c == '\\' then none
    else
      match quote with
      | some (q, triple) =>
        if c == q && !triple then fieldExpression 0 none opened (c :: acc) rest
        else if c == q && startsWith q 2 rest then fieldExpression 2 none opened (c :: acc) rest
        else fieldExpression 0 quote opened (c :: acc) rest
      | none =>
        if c == '\'' || c == '"' then
          if startsWith c 2 rest then fieldExpression 2 (some (c, true)) opened (c :: acc) rest
          else fieldExpression 0 (some (c, false)) opened (c :: acc) rest
        else if c == '(' || c == '[' || c == '\x7b' then
          if opened.length < 200 then fieldExpression 0 none (c :: opened) (c :: acc) rest else none
        else if c == '#' then none
        else if opened.isEmpty && ['!', ':', '\x7d', '=', '<', '>'].contains c then
          if startsWith '=' 1 rest && c != ':' && c != '\x7d' then
            fieldExpression 1 none opened (c :: acc) rest
          else if c == '<' || c == '>' then fieldExpression 0 none opened (c :: acc) rest
          else some (acc.reverse, c :: rest)
        else if c == ')' || c == ']' || c == '\x7d' then
          match opened with
          | [] => none
          | o :: opened =>
            if [('(', ')'), ('[', ']'), ('\x7b', '\x7d')].contains (o, c) then
              fieldExpression 0 none opened (c :: acc) rest
            else none
        else fieldExpression 0 none opened (c :: acc) rest

/--
The plain text up to the next brace that is not doubled, whether it ended with a doubled brace, and
what follows. Braces are doubled only at the outermost level, where a closing brace may not stand
alone.
-/
def plainRun (isRaw : Bool) (level : Nat) :
    Nat → List Char → List Char → Option (List Char × Bool × List Char)
  | 0, _, _ => none
  | _, acc, [] => some (acc.reverse, false, [])
  | fuel + 1, acc, c :: rest =>
    if c == '\\' && !isRaw then
      match rest with
      | [] => some ((c :: acc).reverse, false, [])
      | 'N' :: '\x7b' :: rest' =>
        let name := rest'.takeWhile (· != '\x7d')
        plainRun isRaw level fuel
          ((rest'.take (name.length + 1)).reverse ++ '\x7b' :: 'N' :: c :: acc)
          (rest'.drop (name.length + 1))
      | 'N' :: d :: rest' => plainRun isRaw level fuel (d :: 'N' :: c :: acc) rest'
      | d :: rest' =>
        if d == '\x7b' || d == '\x7d' then brace d (c :: acc) rest'
        else plainRun isRaw level fuel (d :: c :: acc) rest'
    else if c == '\x7b' || c == '\x7d' then brace c acc rest
    else plainRun isRaw level fuel (c :: acc) rest
where
  brace (b : Char) (acc rest : List Char) : Option (List Char × Bool × List Char) :=
    if level = 0 then
      match rest with
      | d :: rest' =>
        if d == b then some ((b :: acc).reverse, true, rest')
        else if b == '\x7d' then none
        else some (acc.reverse, false, b :: rest)
      | [] => if b == '\x7d' then none else some (acc.reverse, false, [b])
    else some (acc.reverse, false, b :: rest)

/--
Whether `c` is a blank of ASCII.
-/
def isAsciiBlank (c : Char) : Bool :=
  c == ' ' || ('\t' ≤ c && c ≤ '\r')

/--
A conversion such as `!r` at the start of the text, if there is one; gives what follows.
-/
def skipConversion : List Char → Option (List Char)
  | '!' :: c :: rest => if c == 's' || c == 'r' || c == 'a' then some rest else none
  | ['!'] => none
  | cs => some cs

/--
The expressions of the replacement fields of a formatted literal, those in format specifications
included, and what follows: nothing at the outermost level, a closing brace further in. Fields stand
at the outermost level and in the format specification of one, no deeper.
-/
def fieldsFrom (isRaw : Bool) :
    Nat → Nat → List Char → Option (List (List Char) × List Char)
  | 0, _, _ => none
  | fuel + 1, level, cs =>
    match plainRun isRaw level (cs.length + 1) [] cs with
    | none => none
    | some (plain, doubled, rest) =>
      if !isRaw && (unescape? plain).isNone then none
      else if doubled then fieldsFrom isRaw fuel level rest
      else
        match rest with
        | [] => if level = 0 then some ([], []) else none
        | '\x7b' :: rest =>
          if level ≥ 2 then none
          else
            match fieldExpression 0 none [] [] rest with
            | none => none
            | some (expression, rest) =>
              if expression.all fun c => c == ' ' || c == '\t' || c == '\n' || c == '\x0c' then none
              else
                let rest := match rest with
                  | '=' :: rest => rest.dropWhile isAsciiBlank
                  | _ => rest
                match skipConversion rest with
                | none => none
                | some rest =>
                  let specification := match rest with
                    | ':' :: rest => fieldsFrom isRaw fuel (level + 1) rest
                    | _ => some ([], rest)
                  match specification with
                  | some (inner, '\x7d' :: rest) =>
                    (fieldsFrom isRaw fuel level rest).map fun (outer, rest) =>
                      (expression :: inner ++ outer, rest)
                  | _ => none
        | rest => some ([], rest)

/--
The expressions of the replacement fields of a formatted literal, or nothing if the literal is broken.
-/
def fields? (isRaw : Bool) (cs : List Char) : Option (List (List Char)) :=
  match fieldsFrom isRaw (cs.length + 1) 0 cs with
  | some (expressions, []) => some expressions
  | _ => none

end CodeAudit.Syntax.Literal
