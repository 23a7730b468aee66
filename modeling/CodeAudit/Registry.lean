import CodeAudit.FrontEnd
import CodeAudit.Unicode.Case

/-!
This module contains the registry of languages: which front end reads which language, and which
endings of files stand for it.
-/

namespace CodeAudit

/--
Front ends by the names of languages, and the names of languages by the endings of files. All names and
endings are in lower case.
-/
structure Registry where
  frontEnds : Table FrontEnd
  languages : Table String

namespace Registry

/--
The languages known from the start.
-/
def standard : Registry where
  frontEnds :=
    [("python", .python), ("javascript", .script .javaScript), ("typescript", .script .typeScript)]
  languages :=
    [(".py", "python"), (".js", "javascript"), (".jsx", "javascript"), (".ts", "typescript"),
      (".tsx", "typescript")]

/--
The front end for a language.
-/
def frontEnd? (r : Registry) (language : String) : Option FrontEnd :=
  r.frontEnds.get? (Unicode.lower language)

/--
The language that the ending of a file stands for.
-/
def languageOf? (r : Registry) (path : String) : Option String :=
  r.languages.get? (Unicode.lower (Files.Path.ofString path).suffix)

/--
The front end for a file. A language without a name has none.
-/
def frontEndOf? (r : Registry) (path : String) : Option FrontEnd :=
  match r.languageOf? path with
  | some language => if language == "" then none else r.frontEnd? language
  | none => none

/--
Let endings stand for a language, up to the first that is no text.
-/
def addExtensions (r : Registry) (language : String) : List Value → Registry × Option Fault
  | [] => (r, none)
  | .text extension :: rest =>
    addExtensions { r with languages := r.languages.put (Unicode.lower extension) language } language rest
  | v :: _ => (r, some (.misuse (.noOperation v.kindName "lower")))

/--
Register a front end for a language and some endings of files. What was registered before a fault
stays.
-/
def register (r : Registry) (language : String) (f : FrontEnd) (extensions : Value) :
    Registry × Option Fault :=
  let language := Unicode.lower language
  let r := { r with frontEnds := r.frontEnds.put language f }
  match extensions.members with
  | .ok vs => r.addExtensions language vs
  | .error m => (r, some (.misuse m))

end Registry

end CodeAudit
