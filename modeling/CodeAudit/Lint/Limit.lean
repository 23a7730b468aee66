import CodeAudit.Data.Decimal
import CodeAudit.Lint.Rule
import CodeAudit.Text.Quoted

/-!
This module contains the rules that set a limit: to the complexity, the lines and the parameters of
functions, and to the lines, the classes and the functions of a file.
-/

namespace CodeAudit.Lint

/-! ### Bounds -/

/--
Whether an integer is greater than a floating-point number, without rounding.
-/
def exceedsFloat (n : Int) (x : Float) : Bool :=
  if x.isNaN then false
  else if x.isInf then x < 0
  else
    let b := Decimal.Binary.ofFloat x.abs
    let size : Int := (b.mantissa * Nat.pow 2 b.exponent.toNat : Nat)
    n * (Nat.pow 2 (-b.exponent).toNat : Nat) > if x < 0 then -size else size

/--
Whether an integer is greater than a bound. The truth values count as one and zero.
-/
def exceeds (n : Int) : Value → Except Misuse Bool
  | .int m => .ok (n > m)
  | .bool b => .ok (n > if b then 1 else 0)
  | .float x => .ok (exceedsFloat n x)
  | v => .error (.noBound v.kindName)

/--
The bound among the options of a rule.
-/
def maxOption (options : Options) (default : Int) : Value :=
  (options.get? "max").getD (.int default)

/--
The findings of a rule with a limit: one if the amount exceeds the bound.
-/
def overLimit (amount : Int) (max : Value) (finding : Finding) : Except Fault (List Finding) := do
  return if ← orFault (exceeds amount max) then [finding] else []

/--
The names of entries.
-/
def nameList (names : List String) : Value :=
  .list (names.map .text)

/-! ### Functions -/

/--
The kinds of entries that are functions.
-/
def functionKinds : List EntryKind := [.function, .method]

/--
The finding about an entry whose amount is too high.
-/
def entryFinding (e : Entry) (message suggestion : String) (details : Table Value) : Finding :=
  { message
    firstLine := e.firstLine
    lastLine := e.lastLine
    entryName := some e.name
    entryKind := some e.kind.name
    suggestion := some suggestion
    details }

/--
The suggestion to divide a function.
-/
def divideSuggestion (name : String) : String :=
  "考虑将 '" ++ name ++ "' 拆分为更小的函数"

/--
Functions have a limited complexity.
-/
def maxComplexity : RuleSpec where
  id := "complexity/max-complexity"
  defaultOptions := [("max", .int 10)]
  inspection := .entries functionKinds fun options e =>
    let max := maxOption options 10
    overLimit e.complexity max <| entryFinding e
      ("函数 '" ++ e.name ++ "' 的圈复杂度为 " ++ toString e.complexity ++ "（最大允许 " ++ max.display ++ "）")
      (divideSuggestion e.name)
      [("actual", .int e.complexity), ("max", max)]

/--
How many lines an entry has.
-/
def lineCount (e : Entry) : Int :=
  e.lastLine - e.firstLine + 1

/--
Functions have a limited number of lines.
-/
def maxFunctionLines : RuleSpec where
  id := "complexity/max-function-lines"
  defaultOptions := [("max", .int 50)]
  inspection := .entries functionKinds fun options e =>
    let max := maxOption options 50
    overLimit (lineCount e) max <| entryFinding e
      ("函数 '" ++ e.name ++ "' 有 " ++ toString (lineCount e) ++ " 行（最大允许 " ++ max.display ++ "）")
      (divideSuggestion e.name)
      [("actual", .int (lineCount e)), ("max", max)]

/--
The parameters that a caller gives.
-/
def givenParams (e : Entry) : List String :=
  e.params.filter fun p => p != "self" && p != "cls"

/--
Functions have a limited number of parameters.
-/
def maxParams : RuleSpec where
  id := "complexity/max-params"
  defaultOptions := [("max", .int 5)]
  inspection := .entries functionKinds fun options e =>
    let max := maxOption options 5
    let count : Int := (givenParams e).length
    overLimit count max <| entryFinding e
      ("函数 '" ++ e.name ++ "' 有 " ++ toString count ++ " 个参数（最大允许 " ++ max.display ++ "）")
      "考虑使用配置对象或数据类来减少参数数量"
      [("actual", .int count), ("max", max), ("params", nameList (givenParams e))]

/-! ### Files -/

/--
The finding about a file whose amount is too high.
-/
def fileFinding (o : Outline) (message suggestion : String) (details : Table Value) : Finding :=
  { message
    firstLine := 1
    lastLine := o.lines.total
    suggestion := some suggestion
    details }

/--
Files have a limited number of lines.
-/
def maxFileLines : RuleSpec where
  id := "structure/max-file-lines"
  defaultOptions := [("max", .int 500)]
  inspection := .whole fun options o =>
    let max := maxOption options 500
    overLimit o.lines.total max <| fileFinding o
      ("文件有 " ++ toString o.lines.total ++ " 行（最大允许 " ++ max.display ++ "）")
      "考虑将文件拆分为多个模块"
      [("actual", .int o.lines.total), ("max", max)]

/--
Files have a limited number of classes.
-/
def maxClassesPerFile : RuleSpec where
  id := "structure/max-classes-per-file"
  defaultOptions := [("max", .int 5)]
  inspection := .whole fun options o =>
    let max := maxOption options 5
    let count : Int := o.classes.length
    overLimit count max <| fileFinding o
      ("文件有 " ++ toString count ++ " 个类（最大允许 " ++ max.display ++ "）")
      "考虑将部分类移动到单独的模块"
      [("actual", .int count), ("max", max), ("classes", nameList (o.classes.map (·.name)))]

/--
Files have a limited number of functions.
-/
def maxFunctionsPerFile : RuleSpec where
  id := "structure/max-functions-per-file"
  defaultOptions := [("max", .int 20)]
  inspection := .whole fun options o =>
    let max := maxOption options 20
    let count : Int := o.functions.length
    overLimit count max <| fileFinding o
      ("文件有 " ++ toString count ++ " 个函数（最大允许 " ++ max.display ++ "）")
      "考虑将部分函数移动到单独的模块或组织为类"
      [("actual", .int count), ("max", max), ("functions", nameList (o.functions.map (·.name)))]

end CodeAudit.Lint
