import CodeAudit.Assist.Client
import CodeAudit.Assist.Prompt
import CodeAudit.Assist.Summary
import CodeAudit.Lint.Engine

/-!
This module contains the analyzer: it makes an outline of code, looks for violations in it, and asks a
language model about the code and what was found.
-/

namespace CodeAudit.Assist

/--
A client to ask with, an engine to look for violations with, the templates of the questions, and the languages
that are known with what they are read with.
-/
structure Analyzer where
  client : Client
  engine : Lint.Engine
  tools : Tools
  catalog : Catalog := {}
  registry : Registry := .standard

namespace Analyzer

/--
An analyzer with the recommended settings for rules.
-/
def make (client : Client) (tools : Tools) : Analyzer where
  client
  tools
  engine := (({} : Lint.Engine).usePreset (.text "recommended")).1

/--
The language of code if it is not given. It is told by the ending of the path, in which the case of
letters matters here.
-/
def detectLanguage (a : Analyzer) (path : String) : String :=
  if path == "" then "python"
  else (a.registry.languages.get? (Files.Path.ofString path).suffix).getD "python"

/--
The outline of code in a language. What keeps the code from being read is a problem in the outline.
-/
def outline (a : Analyzer) (code : List Char) (path language : String) : Outline :=
  match a.registry.frontEnd? language with
  | none =>
    .failed path language (Misuse.noOperation Value.null.kindName "parse").message
  | some frontEnd =>
    let reader := frontEnd.reader a.tools
    match reader.ready >>= fun _ => reader.outline code path with
    | .ok o => o
    | .error f => .failed path language f.message

/--
What a question says about code.
-/
def material (a : Analyzer) (code : List Char) (path language : String) :
    Except CodeAudit.Fault Material := do
  let o := a.outline code path language
  let result ← a.engine.lint o
  let lint ← orFault (lintText result)
  let complexity ← orFault (complexityText o)
  return {
    code := .text (String.ofList code)
    path := .text path
    language := .text language
    totalLines := .int o.lines.total
    codeLines := .int o.lines.code
    structureText := .text (structureText o)
    lintText := .text lint
    complexityText := .text complexity
    imports := if o.imports.isEmpty then nothingFound else .text (String.intercalate ", " o.imports) }

/--
The question about code.
-/
def prompt (a : Analyzer) (kind : AnalysisKind) (code : List Char) (path : String)
    (language : Option String) : Except Fault String := do
  let language := language.getD (a.detectLanguage path)
  match a.material code path language with
  | .ok m => a.catalog.build kind m
  | .error f => throw (.audit f)

/--
Ask about code.
-/
def analyze (a : Analyzer) (kind : AnalysisKind) (code : List Char) (path : String := "")
    (language : Option String := none) : Talk Response := do
  let prompt ← orStop (a.prompt kind code path language)
  a.client.generate (.text prompt)

/--
The kinds of analysis that can be asked for by a name of their own.
-/
def shortcuts : Table AnalysisKind :=
  [("review", .codeReview), ("explain", .explain), ("check_security", .security),
    ("suggest_refactor", .refactor), ("analyze_complexity", .complexity),
    ("optimize_performance", .performance), ("generate_docs", .docstring)]

/--
Ask about code in the way of a shortcut, if there is one of that name.
-/
def shortcut? (a : Analyzer) (name : String) (code : List Char) (path : String := "") : Option (Talk Response) :=
  (shortcuts.get? name).map fun kind => a.analyze kind code path

/--
The code in a file and the path of the file.
-/
def source (files : Files.Store) (path : String) : Except Fault (List Char × String) :=
  let path := (Files.Path.ofString path).toString
  if files.exists? path then
    match files.readText path with
    | .ok code => .ok (code, path)
    | .error e => .error (.audit (.file e))
  else .error (.noFile path)

/--
Ask about the code in a file.
-/
def analyzeFile (a : Analyzer) (files : Files.Store) (kind : AnalysisKind) (path : String) :
    Talk Response := do
  let (code, path) ← orStop (source files path)
  a.analyze kind code path

/--
A message, and below it the code that it is about.
-/
def withCode (message code : String) : String :=
  if code == "" then message else message ++ "\n\n```\n" ++ code ++ "\n```"

/--
Talk with the model, perhaps about code.
-/
def chat (a : Analyzer) (message : String) (code : String := "") : Talk Response :=
  a.client.chat
    (.list [.object [("role", .text "user"), ("content", .text (withCode message code))]])

end Analyzer

end CodeAudit.Assist
