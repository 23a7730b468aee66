/-!
This module contains the tokens of Python source text: names, keywords, numbers, string literals,
symbols, and the marks that line structure leaves (end of line, deeper and shallower indentation).
-/

namespace CodeAudit.Syntax

/--
A string literal as it stands in the source: what its letters in front say, and the characters between
the quotes with their escapes still in place.
-/
structure StringToken where
  /-- The literal denotes bytes. -/
  isBytes : Bool
  /-- Backslashes stand for themselves. -/
  isRaw : Bool
  /-- The literal holds expressions in braces. -/
  isFormatted : Bool
  /-- The characters between the quotes. -/
  body : List Char

/--
What a token is.
-/
inductive Token.Kind where
  | name (text : String)
  | keyword (text : String)
  | number (imaginary : Bool)
  | string (literal : StringToken)
  | symbol (text : String)
  | newline
  | indent
  | dedent
  | endMarker

/--
A token with the lines on which it starts and ends, counted from one.
-/
structure Token where
  kind : Token.Kind
  line : Nat
  endLine : Nat

namespace Token

/--
The words that are never names.
-/
def keywords : List String :=
  ["False", "None", "True", "and", "as", "assert", "async", "await", "break", "class", "continue",
    "def", "del", "elif", "else", "except", "finally", "for", "from", "global", "if", "import", "in",
    "is", "lambda", "nonlocal", "not", "or", "pass", "raise", "return", "try", "while", "with",
    "yield"]

/--
A word is a keyword or a name.
-/
def Kind.ofWord (text : String) : Kind :=
  if keywords.contains text then .keyword text else .name text

/--
Whether the token takes part in the extent of a statement. Line structure does not.
-/
def Kind.isVisible : Kind → Bool
  | .newline | .indent | .dedent | .endMarker => false
  | _ => true

/--
The token without its lines, if it cannot be seen.
-/
def unplaced (t : Token) : Token :=
  if t.kind.isVisible then t else ⟨t.kind, 0, 0⟩

@[simp]
theorem kind_unplaced (t : Token) : t.unplaced.kind = t.kind := by
  unfold unplaced
  split
  . rfl
  . rfl

end Token

end CodeAudit.Syntax
