import CodeAudit.Script.Outline
import CodeAudit.Syntax.File

/-!
This module contains the front ends: what makes outlines of source text, and what they need that is not part
of this library.
-/

namespace CodeAudit

/--
How source text is read: the endings of its files, whether reading can start, and the outline of a text under
a path and of a file. The outline of a file has the path of the file.
-/
structure Reader where
  extensions : List String
  ready : Except Fault Unit
  outline : List Char → String → Except Fault Outline
  outlineOfFile : Files.Store → String → Except Fault Outline
  path_eq : ∀ {files : Files.Store} {path : String} {o : Outline}, outlineOfFile files path = .ok o → o.path = path

/--
What is not part of this library: the memory in which expressions are kept, the parsers for scripts, and readers
for other languages.
-/
structure Tools where
  addresses : Syntax.Addresses
  scriptParser? : ScriptLanguage → Option Script.Parser
  reader : String → Reader

/-! ### Readers -/

namespace Syntax

theorem path_outline (addresses : Addresses) (code : List Char) (path : String)
    : (outline addresses code path).path = path := by
  unfold outline
  split <;> rfl

theorem path_outlineOfFile (addresses : Addresses) (files : Files.Store) (path : String)
    : (outlineOfFile addresses files path).path = path := by
  unfold outlineOfFile
  split
  . exact path_outline addresses _ path
  . rfl

/--
The reader for Python. It is always ready, and what it cannot read has an outline that says so.
-/
def reader (addresses : Addresses) : Reader where
  extensions := [".py"]
  ready := .ok ()
  outline code path := .ok (outline addresses code path)
  outlineOfFile files path := .ok (outlineOfFile addresses files path)
  path_eq h := by
    cases h
    exact path_outlineOfFile addresses _ _

end Syntax

namespace Script

theorem path_outline (language : ScriptLanguage) (code : List Char) (path : String) (p : Parsed)
    : (outline language code path p).path = path := by
  unfold outline
  split <;> rfl

theorem path_outlineOfFile (language : ScriptLanguage) (files : Files.Store) (path : String) (parse : Parser)
    : (outlineOfFile language files path parse).path = path := by
  unfold outlineOfFile
  split
  . exact path_outline language _ path _
  . rfl

/--
Let something be done with the parser for a language, if there is one.
-/
def withParser {α : Type} (language : ScriptLanguage) (parser? : Option Parser) (f : Parser → α) : Except Fault α :=
  match parser? with
  | some parse => .ok (f parse)
  | none => .error (.noParser language)

theorem withParser_eq_ok_iff {α : Type} {language : ScriptLanguage} {parser? : Option Parser} {f : Parser → α} {a : α}
    : withParser language parser? f = .ok a ↔ ∃ parse, parser? = some parse ∧ f parse = a := by
  unfold withParser
  cases parser? with
  | none => simp
  | some parse => simp

/--
The reader for a script language. It is ready if there is a parser for the language.
-/
def reader (language : ScriptLanguage) (parser? : Option Parser) : Reader where
  extensions := language.extensions
  ready := withParser language parser? fun _ => ()
  outline code path := withParser language parser? fun parse => outline language code path (parse code)
  outlineOfFile files path := withParser language parser? (outlineOfFile language files path)
  path_eq h := by
    rcases withParser_eq_ok_iff.mp h with ⟨parse, _, rfl⟩
    exact path_outlineOfFile language _ _ parse

end Script

/-! ### Front ends -/

/--
What makes outlines of source text: a front end of this library, or another one by its name.
-/
inductive FrontEnd where
  | python
  | script (language : ScriptLanguage)
  | other (name : String)
  deriving DecidableEq

/--
How a front end reads.
-/
def FrontEnd.reader (tools : Tools) : FrontEnd → Reader
  | .python => Syntax.reader tools.addresses
  | .script language => Script.reader language (tools.scriptParser? language)
  | .other name => tools.reader name

/--
The tools if nothing is installed besides this library.
-/
def Tools.bare : Tools where
  addresses _ _ := 0
  scriptParser? _ := none
  reader _ := Syntax.reader fun _ _ => 0

end CodeAudit
