import CodeAudit.Assist.Prompt
import CodeAudit.Proofs.Template

/-!
This module contains how questions to a language model embed what they are about. The templates have plain fields
only, so every question can be made, and the code stands in it as it is.
-/

namespace CodeAudit.Assist

/--
The fields of the templates.
-/
inductive Slot where
  | code
  | path
  | language
  | totalLines
  | codeLines
  | structureText
  | lintText
  | complexityText
  | imports
  deriving DecidableEq

namespace Slot

def all : List Slot :=
  [.code, .path, .language, .totalLines, .codeLines, .structureText, .lintText, .complexityText, .imports]

def name : Slot → String
  | .code => "code"
  | .path => "file_path"
  | .language => "language"
  | .totalLines => "total_lines"
  | .codeLines => "code_lines"
  | .structureText => "ast_summary"
  | .lintText => "lint_results"
  | .complexityText => "complexity_info"
  | .imports => "imports"

def ofName? (cs : List Char) : Option Slot :=
  all.find? fun s => s.name.toList == cs

/--
A value as it is displayed, or a text in its place if it is not given.
-/
def shownOr (v : Value) (placeholder : String) : String :=
  if v.isGiven then v.display else placeholder

/--
What stands in the place of a field.
-/
def shown (m : Material) : Slot → String
  | .code => m.code.display
  | .path => shownOr m.path "未知"
  | .language => m.language.display
  | .totalLines => m.totalLines.display
  | .codeLines => m.codeLines.display
  | .structureText => shownOr m.structureText "无"
  | .lintText => shownOr m.lintText "无"
  | .complexityText => shownOr m.complexityText "无"
  | .imports => shownOr m.imports "无"

theorem name_of_ofName? {cs : List Char} {s : Slot} (h : ofName? cs = some s) : s.name.toList = cs := by
  simpa using List.find?_some h

theorem name_plain (s : Slot) : Format.PlainName s.name.toList := by
  have hall : s.name.toList.all (fun c => decide (c ∉ Format.nameMarks)) = true := by
    cases s <;> decide
  refine ⟨?_, ?_, ?_⟩
  . cases s <;> decide
  . intro c hc
    exact of_decide_eq_true (List.all_eq_true.mp hall c hc)
  . cases s <;> rfl

theorem display_orElse (v : Value) (placeholder : String)
    : (Material.orElse v (.text placeholder)).display = shownOr v placeholder := by
  unfold Material.orElse shownOr
  split <;> rfl

theorem get?_fields (m : Material) (s : Slot)
    : ∃ v, m.fields.get? s.name = some v ∧ v.display = s.shown m := by
  cases s with
  | code => exact ⟨_, rfl, rfl⟩
  | path => exact ⟨_, rfl, display_orElse _ _⟩
  | language => exact ⟨_, rfl, rfl⟩
  | totalLines => exact ⟨_, rfl, rfl⟩
  | codeLines => exact ⟨_, rfl, rfl⟩
  | structureText => exact ⟨_, rfl, display_orElse _ _⟩
  | lintText => exact ⟨_, rfl, display_orElse _ _⟩
  | complexityText => exact ⟨_, rfl, display_orElse _ _⟩
  | imports => exact ⟨_, rfl, display_orElse _ _⟩

theorem shown_with_code (m : Material) (v v' : Value) {s : Slot} (hs : s ≠ .code)
    : s.shown { m with code := v } = s.shown { m with code := v' } := by
  cases s with
  | code => exact absurd rfl hs
  | _ => rfl

end Slot

/--
A layout of the template for a kind of analysis: its fields are plain and have the known names, and the code has one
place in it.
-/
structure Template.LaidOut (kind : AnalysisKind) (l : Format.Layout Slot) : Prop where
  plain : l.Plain
  written : l.written Slot.name = (Template.standard kind).text.toList
  code : (l.parts.map (·.2)).count .code = 1

set_option maxRecDepth 100000 in
theorem Template.exists_laidOut (kind : AnalysisKind) : ∃ l, Template.LaidOut kind l := by
  -- The layout is read from a list of characters, into which the text of the template is turned first.
  have hread : ∃ cs, (standard kind).text = String.ofList cs ∧
      ((Format.Layout.read? Slot.ofName? cs).map fun l => (l.parts.map (·.2)).count .code) = some 1 := by
    cases kind <;> exact ⟨_, rfl, by decide +kernel⟩
  rcases hread with ⟨cs, hcs, hread⟩
  rcases Option.map_eq_some_iff.mp hread with ⟨l, hl, hcode⟩
  rcases Format.Layout.read?_eq_some (fun cs s => Slot.name_of_ofName?) hl with ⟨hplain, hwritten⟩
  exact ⟨l, hplain, by rw [hwritten, hcs, String.toList_ofList], hcode⟩

theorem Template.LaidOut.build_eq {kind : AnalysisKind} {l : Format.Layout Slot} (h : Template.LaidOut kind l)
    (m : Material) : Catalog.build {} kind m = .ok (String.ofList (l.filled (Slot.shown m))) := by
  unfold Catalog.build
  rw [← h.written, Format.render_written Slot.name_plain (Slot.get?_fields m) h.plain]

/--
Every question can be made: it is the text of the template with the value of each field in its place, or a
placeholder, whatever characters the values have. Two questions that differ in nothing but the code are different.
-/
theorem build_embeds (kind : AnalysisKind)
    : ∃ l, Template.LaidOut kind l ∧
        (∀ m, Catalog.build {} kind m = .ok (String.ofList (l.filled (Slot.shown m)))) ∧
        ∀ m : Material, Function.Injective fun code => Catalog.build {} kind { m with code := .text code } := by
  rcases Template.exists_laidOut kind with ⟨l, hl⟩
  refine ⟨l, hl, hl.build_eq, ?_⟩
  intro m code code' h
  dsimp only at h
  rw [hl.build_eq, hl.build_eq] at h
  have hfilled := String.ofList_injective (Except.ok.inj h)
  have hothers : ∀ s : Slot, s ≠ .code →
      s.shown { m with code := .text code } = s.shown { m with code := .text code' } :=
    fun s hs => Slot.shown_with_code m _ _ hs
  exact Format.Layout.filled_inj hothers hl.code hfilled

end CodeAudit.Assist
