import CodeAudit.Data.Json
import CodeAudit.Data.Toml
import CodeAudit.Lint.Config

/-!
This module contains the search for the configuration of an audit in files.
-/

namespace CodeAudit.Lint.Config

open Files

/--
A reader for YAML. What it is given are the path and the bytes of a file, and the values that it gives are well formed.
-/
structure YamlReader where
  read : String → List Nat → Except Breakdown Value
  wellFormed : ∀ {path : String} {bytes : List Nat} {v : Value}, read path bytes = .ok v → v.WellFormed

/--
The formats of configuration files that need something besides this library.
-/
structure Formats where
  knowsToml : Bool := true
  yaml : Option YamlReader := none

/--
Let a file that cannot be read stop the audit.
-/
def orFileFault {α : Type} : Except ReadFault α → Except Fault α
  | .ok a => .ok a
  | .error e => .error (.file e)

/--
Read a configuration file in YAML, if there is a reader for it.
-/
def ofYamlFile (formats : Formats) (files : Store) (path : Path) : Except Fault Config :=
  match formats.yaml with
  | none => throw .yaml
  | some reader => do
    let bytes ← orFileFault (files.readBytes path.toString)
    match reader.read path.toString bytes with
    | .ok v => ofValue v
    | .error b => throw (.outside b)

/--
Read the configuration file under a path. The ending of the path says in which format it is.
-/
def ofFile (formats : Formats) (files : Store) (path : Path) : Except Fault Config := do
  match path.suffix with
  | ".json" =>
    let text ← orFileFault (files.readText path.toString)
    match Json.read (String.ofList text) with
    | .ok v => ofValue v
    | .error e => throw (.json e)
  | ".yaml" => ofYamlFile formats files path
  | ".yml" => ofYamlFile formats files path
  | suffix => throw (.configFormat suffix)

/--
Read the part of a project file that configures audits, if there is one.
-/
def ofProjectFile? (files : Store) (path : Path) : Except Fault (Option Config) := do
  let bytes ← orFileFault (files.readBytes path.toString)
  match Text.decode bytes with
  | .error e => throw (.file (.undecodable e))
  | .ok text =>
    match Toml.read text with
    | .error e => throw (.toml e)
    | .ok fields =>
      let tools ← orFault (((Table.get? fields "tool").getD (.object [])).fieldsFor "get")
      let own := (tools.get? "analyzer").getD (.object [])
      if own.isGiven then return some (← ofValue own) else return none

/--
The names of configuration files, the first that is there counts.
-/
def fileNames : List String :=
  [".analyzerrc.json", ".analyzerrc.yaml", ".analyzerrc.yml", "analyzer.config.json"]

/--
The name of the project file.
-/
def projectFileName : String := "pyproject.toml"

/--
Search a folder for a configuration. A project file is passed over if its format is not known.
-/
def search (formats : Formats) (files : Store) (folder : Path) : Except Fault Config :=
  match fileNames.find? fun name => files.exists? (folder.child name).toString with
  | some name => ofFile formats files (folder.child name)
  | none => do
    let project := folder.child projectFileName
    if formats.knowsToml && files.exists? project.toString then
      return (← ofProjectFile? files project).getD standard
    else return standard

/--
The folder that is searched. Without one it is the working folder.
-/
def searchFolder (files : Store) (folder : Option String) : Path :=
  match folder.filter (· != "") with
  | some folder => Path.ofString folder
  | none => files.workingPath

/--
Load a configuration: from the path if one is given, else from what is found in the folder. An empty
path is as good as none.
-/
def load (formats : Formats) (files : Store) (path folder : Option String) : Except Fault Config :=
  match path.filter (· != "") with
  | some path => ofFile formats files (Path.ofString path)
  | none => search formats files (searchFolder files folder)

end CodeAudit.Lint.Config
