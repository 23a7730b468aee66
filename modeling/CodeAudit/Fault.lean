import CodeAudit.Data.Misuse
import CodeAudit.Data.ReadError
import CodeAudit.Files.Store

/-!
This module contains the reasons why an audit stops.
-/

namespace CodeAudit

/--
A language whose source needs a parser that is not part of this library.
-/
inductive ScriptLanguage where
  | javaScript
  | typeScript
  deriving DecidableEq

namespace ScriptLanguage

/--
The name of the language as people write it.
-/
def title : ScriptLanguage → String
  | .javaScript => "JavaScript"
  | .typeScript => "TypeScript"

/--
The name of the language in outlines.
-/
def name : ScriptLanguage → String
  | .javaScript => "javascript"
  | .typeScript => "typescript"

/--
The endings of files in the language.
-/
def extensions : ScriptLanguage → List String
  | .javaScript => [".js", ".jsx"]
  | .typeScript => [".ts", ".tsx"]

end ScriptLanguage

/--
A failure of something that is not part of this library: its kind, and what is said about it.
-/
structure Breakdown where
  kind : String
  message : String
  deriving DecidableEq

/--
Why an audit stops.
-/
inductive Fault where
  /-- A value is of the wrong kind. -/
  | misuse (m : Misuse)
  /-- A file cannot be read. -/
  | file (e : Files.ReadFault)
  /-- A text is not JSON. -/
  | json (e : ReadError)
  /-- A text is not TOML. -/
  | toml (e : ReadError)
  /-- A number is no severity. -/
  | severityNumber (n : Int)
  /-- A name is no severity. -/
  | severityName (name : String)
  /-- No rule has this name. -/
  | unknownRule (id : String)
  /-- A configuration file has an ending that says nothing about its format. -/
  | configFormat (suffix : String)
  /-- A configuration file is in YAML, and there is no reader for it. -/
  | yaml
  /-- There is no parser for a language. -/
  | noParser (language : ScriptLanguage)
  /-- Something that the audit relies on fails. -/
  | outside (b : Breakdown)
  /-- Two stars stand among other characters in a search pattern. -/
  | searchPattern
  deriving DecidableEq

namespace Fault

/--
What is said about a text that is not read. Only the integers that are too long are spoken of.
-/
def readMessage : ReadError → String
  | .malformed => ""
  | .tooManyDigits count => tooManyDigitsMessage count

/--
What is said when an audit stops.
-/
def message : Fault → String
  | .misuse m => m.message
  | .file e => e.message
  | .json e => readMessage e
  | .toml e => readMessage e
  | .severityNumber n => toString n ++ " is not a valid Severity"
  | .severityName name => Text.quoted name
  | .unknownRule id => "未知规则: " ++ id
  | .configFormat suffix => "不支持的配置文件格式: " ++ suffix
  | .yaml => "需要安装 PyYAML 来支持 YAML 配置文件: pip install pyyaml"
  | .noParser language =>
    "Tree-sitter is required for " ++ language.title ++ " parsing. Install with: pip install tree-sitter " ++
      "tree-sitter-" ++ language.name
  | .outside b => b.message
  | .searchPattern => "Invalid pattern: '**' can only be an entire path component"

end Fault

/--
Let a wrong kind of value stop the audit.
-/
def orFault {α : Type} : Except Misuse α → Except Fault α
  | .ok a => .ok a
  | .error m => .error (.misuse m)

end CodeAudit
