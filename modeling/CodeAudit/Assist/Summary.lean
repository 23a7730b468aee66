import CodeAudit.Lint.Limit
import CodeAudit.Lint.Report

/-!
This module contains what a question to a language model says about an outline and about the violations
in it.
-/

namespace CodeAudit.Assist

/--
Lines as one text.
-/
def joinLines (lines : List String) : String :=
  String.intercalate "\n" lines

/--
The lines of an entry.
-/
def lineRange (e : Entry) : String :=
  "(行 " ++ toString e.firstLine ++ "-" ++ toString e.lastLine ++ ")"

/--
The complexity of an entry, if it is positive.
-/
def complexityMark (e : Entry) : String :=
  if e.complexity > 0 then " [复杂度: " ++ toString e.complexity ++ "]" else ""

/--
A title with the number of entries under it.
-/
def countTitle (title : String) (es : List Entry) : String :=
  "### " ++ title ++ " (" ++ toString es.length ++ " 个)"

/--
A section with a line for each entry. Without entries there is none.
-/
def section_ (title : String) (line : Entry → String) (es : List Entry) : List String :=
  if es.isEmpty then [] else countTitle title es :: es.map line

/--
The line of a function.
-/
def functionLine (e : Entry) : String :=
  "- `" ++ e.name ++ "(" ++ String.intercalate ", " e.params ++ ")`" ++ complexityMark e ++ " " ++
    lineRange e

/--
The line of a class.
-/
def classLine (e : Entry) : String :=
  "- `" ++ e.name ++ "` " ++ lineRange e

/--
The line of a method.
-/
def methodLine (e : Entry) : String :=
  "- `" ++ e.name ++ "`" ++ complexityMark e

/--
The functions, classes and methods of an outline. The last two sections start with an empty line, also
where nothing goes before.
-/
def structureText (o : Outline) : String :=
  let spaced : List String → List String
    | [] => []
    | title :: lines => ("\n" ++ title) :: lines
  let lines := section_ "函数" functionLine o.functions ++
    spaced (section_ "类" classLine o.classes) ++ spaced (section_ "方法" methodLine o.methods)
  if lines.isEmpty then "无结构信息" else joinLines lines

/-! ### Complexity -/

/--
The functions and methods whose complexity exceeds a threshold.
-/
def complexEntries (threshold : Value) : List Entry → Except Misuse (List Entry)
  | [] => .ok []
  | e :: rest =>
    if Lint.functionKinds.contains e.kind then do
      let isHigh ← Lint.exceeds e.complexity threshold
      let found ← complexEntries threshold rest
      return if isHigh then e :: found else found
    else complexEntries threshold rest

/--
The most complex entries first. Entries of one complexity keep their order.
-/
def byComplexity (es : List Entry) : List Entry :=
  es.mergeSort fun a b => b.complexity ≤ a.complexity

/--
The line of a complex entry.
-/
def complexLine (e : Entry) : String :=
  "- `" ++ e.name ++ "`: 复杂度 " ++ toString e.complexity ++ " " ++ lineRange e

/--
The threshold above which a complexity is high.
-/
def highComplexity : Value := .int 5

/--
The functions and methods of an outline with a high complexity.
-/
def complexityText (o : Outline) (threshold : Value := highComplexity) : Except Misuse String := do
  let es ← complexEntries threshold o.entries
  return if es.isEmpty then "无高复杂度函数" else joinLines ((byComplexity es).map complexLine)

/-! ### Violations -/

/--
What is said about violations. It is only said that there are none: the number of violations is a
matter of reports, and the result for one file has no total.
-/
def lintText (r : Lint.FileResult) : Except Misuse String :=
  if r.violations.isEmpty then .ok "无违规"
  else .error (.noOperation "LintResult" "total_violations")

end CodeAudit.Assist
