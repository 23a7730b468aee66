import CodeAudit.Assist.Fault
import CodeAudit.Assist.Template
import CodeAudit.Format.Template

/-!
This module contains the questions to a language model. A question is the template of a kind of
analysis, filled in with what is known about the code.
-/

namespace CodeAudit.Assist

/--
The kind of analysis with a name.
-/
def AnalysisKind.ofName (name : String) : Except Fault AnalysisKind :=
  match AnalysisKind.ofName? name with
  | some kind => .ok kind
  | none => .error (.analysisKind name)

/--
A template for each kind of analysis.
-/
structure Catalog where
  template : AnalysisKind → Template := Template.standard

namespace Catalog

/--
Put another template in place.
-/
def register (c : Catalog) (kind : AnalysisKind) (t : Template) : Catalog :=
  ⟨fun k => if k = kind then t else c.template k⟩

/--
The templates, in the order of the kinds of analysis.
-/
def templates (c : Catalog) : List Template :=
  AnalysisKind.all.map c.template

end Catalog

/--
What stands for a path that is not given.
-/
def unknownPath : Value := .text "未知"

/--
What stands for a finding that is not given.
-/
def nothingFound : Value := .text "无"

/--
What is known about the code that a question is about.
-/
structure Material where
  code : Value
  path : Value := .text ""
  language : Value := .text "python"
  totalLines : Value := .int 0
  codeLines : Value := .int 0
  structureText : Value := .text ""
  lintText : Value := .text ""
  complexityText : Value := .text ""
  imports : Value := .text ""
  /-- Values for further fields of a template. -/
  others : Table Value := []

namespace Material

/--
A value, or another one if it is not given.
-/
def orElse (v placeholder : Value) : Value :=
  if v.isGiven then v else placeholder

/--
The fields that templates can have, with their values.
-/
def fields (m : Material) : Table Value :=
  [("code", m.code),
    ("file_path", orElse m.path unknownPath),
    ("language", m.language),
    ("total_lines", m.totalLines),
    ("code_lines", m.codeLines),
    ("ast_summary", orElse m.structureText nothingFound),
    ("lint_results", orElse m.lintText nothingFound),
    ("complexity_info", orElse m.complexityText nothingFound),
    ("imports", orElse m.imports nothingFound)] ++ m.others

/--
Set what a field is made of, by the name of the field.
-/
def set (m : Material) (field : String × Value) : Material :=
  match field with
  | ("code", v) => { m with code := v }
  | ("file_path", v) => { m with path := v }
  | ("language", v) => { m with language := v }
  | ("total_lines", v) => { m with totalLines := v }
  | ("code_lines", v) => { m with codeLines := v }
  | ("ast_summary", v) => { m with structureText := v }
  | ("lint_results", v) => { m with lintText := v }
  | ("complexity_info", v) => { m with complexityText := v }
  | ("imports", v) => { m with imports := v }
  | (name, v) => { m with others := m.others.put name v }

/--
The material of named values.
-/
def ofFields (fields : Table Value) : Material :=
  fields.foldl set { code := .text "" }

end Material

/--
Fill in the template of a kind of analysis.
-/
def Catalog.build (c : Catalog) (kind : AnalysisKind) (m : Material) : Except Fault String :=
  match Format.render (c.template kind).text.toList m.fields with
  | .ok cs => .ok (String.ofList cs)
  | .error f => .error (.template f)

end CodeAudit.Assist
