import CodeAudit.Syntax.Module
import CodeAudit.Syntax.Survey
import CodeAudit.Text.Encoding

/-!
This module contains the outline of Python source text.
-/

namespace CodeAudit.Syntax

/--
Why Python source text has no outline.
-/
inductive Problem where
  /-- The text is not a module. -/
  | notModule
  /-- The text has no encoding. -/
  | unencodable (e : Text.Unencodable)

/--
What is reported about source text without an outline.
-/
def Problem.message : Problem → String
  | .notModule => "语法错误"
  | .unencodable e => "解析错误: " ++ e.message

/--
The counts of the lines of Python source text. The lines of code are what the others leave.
-/
def lineCounts (code : List Char) : Text.LineCounts :=
  let lines := Text.lines code
  let total : Int := lines.length
  let blank : Int := (lines.filter Text.isBlankLine).length
  let comment : Int := (lines.filter fun line => (Text.strip line).head? == some '#').length
  { total, code := total - blank - comment, comment, blank }

/--
The name of the language.
-/
def languageName : String := "python"

/--
The outline of Python source text. Source that is not a module has no entries and no counts.
-/
def outline (addresses : Addresses) (code : List Char) (path : String) : Outline :=
  match parse? code with
  | none => .failed path languageName Problem.notModule.message
  | some body =>
    let survey := Survey.ofModule addresses body
    { path
      language := languageName
      entries := survey.entries
      imports := survey.imports
      lines := lineCounts code }

/--
The outline of Python source text that is given by its code points.
-/
def outlineOfCodePoints (addresses : Addresses) (ns : List Nat) (path : String) : Outline :=
  match Text.ofCodePoints ns with
  | .error e => .failed path languageName (Problem.unencodable e).message
  | .ok code => outline addresses code path

end CodeAudit.Syntax
