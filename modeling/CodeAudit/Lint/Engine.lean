import CodeAudit.Files.Glob
import CodeAudit.Lint.ConfigFile
import CodeAudit.Lint.Naming
import CodeAudit.Lint.Report
import CodeAudit.Registry
import CodeAudit.Text.Wildcard

/-!
This module contains the engine: it holds the rules that are known and those that are active, and
applies them to outlines, files and folders.
-/

namespace CodeAudit.Lint

/--
The files that an engine works on, the languages that it knows, and what they are read with.
-/
structure Workspace where
  files : Files.Store
  tools : Tools
  registry : Registry := .standard

/--
The rules that are known, the rules that are active, and the configuration that was applied last.
-/
structure Engine where
  specs : Table RuleSpec := []
  active : Table Rule := []
  config : Option Config := none

namespace Engine

/-! ### Rules and configurations -/

/--
Make a rule known.
-/
def register (e : Engine) (spec : RuleSpec) : Engine :=
  { e with specs := e.specs.put spec.id spec }

/--
Make the rules known that come with the library.
-/
def registerBuiltin (e : Engine) : Engine :=
  builtinRules.foldl register e

/--
The rule that a configuration makes of a known one, if it is not off. A rule that the configuration
does not name is as it is from the start.
-/
def resolve (c : Config) (spec : RuleSpec) : Except Fault (Option Rule) := do
  match c.rules.get? spec.id with
  | none => return some spec.standard
  | some setting =>
    match ← Severity.ofValue setting.severity with
    | .off => return none
    | severity => return some (← spec.configure (some severity) setting.options)

/--
Activate known rules one after the other, up to the first fault.
-/
def activate (c : Config) (active : Table Rule) : List RuleSpec → Table Rule × Option Fault
  | [] => (active, none)
  | spec :: specs =>
    match resolve c spec with
    | .error f => (active, some f)
    | .ok none => activate c active specs
    | .ok (some rule) => activate c (active.put spec.id rule) specs

/--
Apply the last configuration again, if there is one: all rules are made anew. The rules before a fault
stay active.
-/
def apply (e : Engine) : Engine × Option Fault :=
  match e.config with
  | none => (e, none)
  | some c =>
    let (active, fault) := activate c [] (e.specs.map (·.2))
    ({ e with active }, fault)

/--
Take a configuration and apply it, if it could be made.
-/
def use (e : Engine) (c : Except Fault Config) : Engine × Option Fault :=
  match c with
  | .ok c => { e with config := some c }.apply
  | .error f => (e, some f)

/--
Load a configuration and apply it.
-/
def loadConfig (e : Engine) (formats : Config.Formats) (files : Files.Store) (path folder : Option String) :
    Engine × Option Fault :=
  e.use (Config.load formats files path folder)

/--
Apply a preset.
-/
def usePreset (e : Engine) (name : Value) : Engine × Option Fault :=
  e.use (Config.ofPresetValue name)

/--
Configure one rule. With the severity `off` the rule is no longer active.
-/
def configureRule (e : Engine) (id : String) (severity : Option Severity) (options : Value) :
    Except Fault Engine :=
  match e.specs.get? id with
  | none => .error (.unknownRule id)
  | some spec =>
    if severity = some .off then .ok { e with active := e.active.remove id }
    else do
      let rule ← spec.configure severity options
      return { e with active := e.active.put id rule }

/--
The active rules that run.
-/
def enabledRules (e : Engine) : List Rule :=
  (e.active.map (·.2)).filter (·.isEnabled)

/-! ### Outlines and files -/

/--
What the active rules report about an outline, rule by rule.
-/
def violations (e : Engine) (o : Outline) : Except Fault (List Violation) := do
  let rules := e.enabledRules.filter fun r => r.spec.supports o.language
  return (← rules.mapM (·.check o)).flatten

/--
Lint an outline.
-/
def lint (e : Engine) (o : Outline) : Except Fault FileResult := do
  let start : FileResult := { path := o.path, problems := o.problems }
  return start.addAll (← e.violations o)

/--
Lint a file. A file in no known language has a result that says so.
-/
def lintFile (e : Engine) (w : Workspace) (path : String) : Except Fault FileResult :=
  match w.registry.frontEndOf? path with
  | none => .ok { path, problems := ["没有可用的解析器: " ++ path] }
  | some frontEnd => do
    let reader := frontEnd.reader w.tools
    reader.ready
    e.lint (← reader.outlineOfFile w.files path)

/--
Whether one of the patterns stands for the path. The first that does decides, so what comes after it
need not be a pattern.
-/
def matchesAny (path : String) : List Value → Except Misuse Bool
  | [] => .ok false
  | .text pattern :: rest =>
    if Text.matchesWildcard pattern.toList path.toList then .ok true else matchesAny path rest
  | v :: _ => .error (.noPath v.kindName)

/--
Whether the configuration says that a path is to be ignored.
-/
def ignores (e : Engine) (path : String) : Except Fault Bool :=
  match e.config with
  | none => .ok false
  | some c =>
    if c.ignorePatterns.isGiven then
      orFault (do matchesAny path (← c.ignorePatterns.members))
    else .ok false

/--
Lint files one after the other, without those that are ignored.
-/
def lintFiles (e : Engine) (w : Workspace) (paths : List String) : Except Fault Report := do
  return ⟨← go paths⟩
where
  go : List String → Except Fault (List FileResult)
    | [] => .ok []
    | path :: rest => do
      if ← e.ignores path then go rest
      else
        let result ← e.lintFile w path
        return result :: (← go rest)

/--
The paths of what stands in a folder under names with a given ending.
-/
def pathsWithEnding (files : Files.Store) (folder : Files.Path) (recursive : Bool) (ending : String) :
    Except Fault (List String) :=
  match Files.patternParts? ((if recursive then "**/*" else "*") ++ ending) with
  | some parts => .ok ((files.glob folder parts).map (·.toString))
  | none => .error .searchPattern

/--
Lint what stands in a folder, and below it if `recursive` holds. Without endings, those of the known
languages count.
-/
def lintFolder (e : Engine) (w : Workspace) (folder : String) (recursive : Bool)
    (endings : Option Value) : Except Fault Report := do
  let endings ← match endings with
    | some v => orFault v.members
    | none => pure (w.registry.languages.names.map .text)
  let found ← endings.mapM fun ending =>
    pathsWithEnding w.files (Files.Path.ofString folder) recursive ending.display
  e.lintFiles w found.flatten

end Engine

end CodeAudit.Lint
