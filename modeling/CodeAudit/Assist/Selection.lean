import CodeAudit.Assist.Model
import CodeAudit.Data.ReadError
import CodeAudit.Text.Blank
import CodeAudit.Text.Quoted
import CodeAudit.Unicode.Digit

/-!
This module contains the choice of a model by a person: the models are shown with numbers, and lines are
read until one of them gives a number of a model.
-/

namespace CodeAudit.Assist

/-! ### Whole numbers -/

/--
The values of digits of any script. A single underscore may stand between two digits.
-/
def digitValues? : List Char → Option (List Nat)
  | [] => none
  | [c] => (Unicode.decimalValue? c).map fun d => [d]
  | c :: '_' :: rest => do
    let d ← Unicode.decimalValue? c
    let ds ← digitValues? rest
    return d :: ds
  | c :: rest => do
    let d ← Unicode.decimalValue? c
    let ds ← digitValues? rest
    return d :: ds

/--
Read a whole number, with or without a sign. Numbers of very many digits are not read.
-/
def wholeNumber? (cs : List Char) : Option Int := do
  let (negative, digits) := match cs with
    | '-' :: rest => (true, rest)
    | '+' :: rest => (false, rest)
    | _ => (false, cs)
  let ds ← digitValues? digits
  if maxDigits < ds.length then none
  let n : Nat := ds.foldl (fun n d => 10 * n + d) 0
  return if negative then -(n : Int) else n

/-! ### Choosing -/

/--
What a person does when asked: type a line, or interrupt.
-/
inductive Answer where
  | line (s : String)
  | interrupt

/--
What a line means: a model by its place, a number without a model, or no number.
-/
inductive Choice where
  | model (place : Nat)
  | outOfRange
  | noNumber
  deriving DecidableEq

/--
What a line means if there are `count` models. A blank line stands for the first model.
-/
def choiceOf (count : Nat) (line : List Char) : Choice :=
  let cs := Text.strip line
  match wholeNumber? (if cs.isEmpty then ['1'] else cs) with
  | none => .noNumber
  | some n => if 1 ≤ n && n ≤ count then .model (n - 1).toNat else .outOfRange

/--
How a choice ends: with the name of a model unless the answers end before, with the number of answers
that are left, and with the lines that were shown.
-/
structure Selection where
  chosen : Option String
  left : Nat
  shown : List String

/--
What is shown about the models, line by line.
-/
def menu : List String :=
  let heading := ["\n可用的代码分析模型：", String.ofList (List.replicate 60 '-')]
  let entry (place : Nat) (m : Model) : List String :=
    ["  " ++ toString (place + 1) ++ ". " ++ m.name.display,
      "     " ++ m.description.display,
      "     参数量: " ++ m.size.display ++ " | 上下文: " ++ toString m.contextLength ++ " | " ++
        (if m.supportsChinese then "✓ 中文" else "✗ 英文"),
      ""]
  heading ++ (recommendedModels.mapIdx fun place m => entry place m.2).flatten

/--
What a person is asked.
-/
def question : String := "请选择模型 (输入数字，默认 1): "

/--
Ask until a model is chosen.
-/
def choose (names : List String) : List Answer → Selection
  | [] => ⟨none, 0, [question]⟩
  | .interrupt :: rest => ⟨names.head?, rest.length, [question, "\n已取消"]⟩
  | .line s :: rest =>
    match choiceOf names.length s.toList with
    | .model place =>
      let name := names[place]?.getD ""
      ⟨some name, rest.length, [question, "\n已选择: " ++ name]⟩
    | .outOfRange =>
      let later := choose names rest
      { later with shown := question :: "无效选择，请重试" :: later.shown }
    | .noNumber =>
      let later := choose names rest
      { later with shown := question :: "请输入有效数字" :: later.shown }

/--
Let a person choose one of the recommended models.
-/
def selectModel (answers : List Answer) : Selection :=
  let s := choose recommendedModels.names answers
  { s with shown := menu ++ s.shown }

/--
All that was shown as one text.
-/
def Selection.output (s : Selection) : String :=
  String.join (s.shown.map (· ++ "\n"))

end CodeAudit.Assist
