import CodeAudit.Syntax.Grammar.Statement

/-!
This module contains the parser for whole modules. It closes the productions of the grammar over each
other, to a depth that the text cannot exceed.
-/

namespace CodeAudit.Syntax

/--
Parsers for phrases that are nested no deeper than the given depth.
-/
def Nested.ofDepth : Nat → Nested
  | 0 => ⟨failure, failure, failure, failure, failure, failure, failure⟩
  | depth + 1 =>
    let r := Nested.ofDepth depth
    { expression := Grammar.expression r
      disjunction := Grammar.disjunction r
      operand := Grammar.operand r
      factor := Grammar.factor r
      primary := Grammar.primary r
      pattern := Grammar.pattern r
      statements := Grammar.statements r }

/--
A module: statements up to the end of the text.
-/
def Grammar.module_ (r : Nested) : Parser (List Stmt) := do
  let body ← (do
    match ← Parser.peek with
    | .endMarker => return []
    | _ => r.statements)
  guard (← Parser.accept? fun | .endMarker => true | _ => false)
  return body

/--
How deep phrases may be nested in a text. A phrase starts with a token of its own inside the phrase that it
is nested in, so no phrase is nested deeper than there are characters besides line ends.
-/
def maxDepth (text : List Char) : Nat :=
  (text.filter fun c => c != '\n' && c != '\r').length + 8

/--
The statements of a module, or nothing if the text is not a module.
-/
def parse? (text : List Char) : Option (List Stmt) := do
  let tokens ← tokens? text
  let (body, _) ← (Grammar.module_ (Nested.ofDepth (maxDepth text))).run ⟨tokens, 0⟩
  return body

end CodeAudit.Syntax
