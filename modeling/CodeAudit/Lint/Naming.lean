import CodeAudit.Lint.Limit

/-!
This module contains the rules about the names of functions and classes.
-/

namespace CodeAudit.Lint

/--
A style of names.
-/
inductive Style where
  | snakeCase
  | camelCase
  | pascalCase
  deriving DecidableEq

namespace Style

/--
The styles by their names.
-/
def named : Table Style :=
  [("snake_case", .snakeCase), ("camelCase", .camelCase), ("PascalCase", .pascalCase)]

/--
The regular expression that is reported for a style.
-/
def pattern : Style → String
  | .snakeCase => "^[a-z_][a-z0-9_]*$"
  | .camelCase => "^[a-z][a-zA-Z0-9]*$"
  | .pascalCase => "^[A-Z][a-zA-Z0-9]*$"

/--
Whether a name of the style may start with `c`.
-/
def isFirst : Style → Char → Bool
  | .snakeCase, c => c.isLower || c == '_'
  | .camelCase, c => c.isLower
  | .pascalCase, c => c.isUpper

/--
Whether `c` may stand in a name of the style after its start.
-/
def isNext : Style → Char → Bool
  | .snakeCase, c => c.isLower || c.isDigit || c == '_'
  | _, c => c.isAlphanum

/--
Whether a name is of the style.
-/
def accepts (s : Style) : List Char → Bool
  | [] => false
  | c :: rest => s.isFirst c && rest.all s.isNext

end Style

/--
A name without the line feed at its end, if it has one.
-/
def withoutLineEnd (name : List Char) : List Char :=
  if name.getLast? == some '\n' then name.dropLast else name

/--
Whether two underscores stand at the start and two others at the end of a name, and no line feed in it.
Such names are given by the language.
-/
def isReserved (name : List Char) : Bool :=
  4 ≤ name.length && ['_', '_'].isPrefixOf name && ['_', '_'].isSuffixOf name && !name.contains '\n'

/--
The style that the options of a rule ask for. An unknown style asks for nothing.
-/
def styleOption (options : Options) (default : String) : Except Fault (Option (String × Style)) := do
  match ← orFault ((options.get? "style").getD (.text default)).lookupText? with
  | some name => return (Style.named.get? name).map fun style => (name, style)
  | none => return none

/--
The finding about a name that is not of the style.
-/
def nameFinding (e : Entry) (what styleName : String) (style : Style) : Finding :=
  entryFinding e
    (what ++ " '" ++ e.name ++ "' 不符合 " ++ styleName ++ " 命名规范")
    ("重命名以符合 " ++ styleName ++ " 规范")
    [("style", .text styleName), ("pattern", .text style.pattern)]

/--
Functions have names of one style, but for those that the language gives.
-/
def functionNaming : RuleSpec where
  id := "naming/function-naming"
  defaultOptions := [("style", .text "snake_case")]
  inspection := .entries functionKinds fun options e => do
    match ← styleOption options "snake_case" with
    | none => return []
    | some (styleName, style) =>
      let name := withoutLineEnd e.name.toList
      return if isReserved name || style.accepts name then [] else [nameFinding e "函数" styleName style]

/--
Classes have names of one style.
-/
def classNaming : RuleSpec where
  id := "naming/class-naming"
  defaultOptions := [("style", .text "PascalCase")]
  inspection := .entries [.class_] fun options e => do
    match ← styleOption options "PascalCase" with
    | none => return []
    | some (styleName, style) =>
      let name := withoutLineEnd e.name.toList
      return if style.accepts name then [] else [nameFinding e "类" styleName style]

/--
The rules that come with the library.
-/
def builtinRules : List RuleSpec :=
  [maxComplexity, maxFunctionLines, maxParams, functionNaming, classNaming, maxFileLines,
    maxClassesPerFile, maxFunctionsPerFile]

end CodeAudit.Lint
