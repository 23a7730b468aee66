import CodeAudit.Proofs.Embedding
import CodeAudit.Proofs.Outcome
import CodeAudit.Proofs.Ranking
import CodeAudit.Proofs.Session

/-!
This module contains what an analysis asks a language model. Whatever keeps code from being read is contained in the
outline, so that every analysis comes to its one request; what is asked then differs only in what is said to be found
in the code.
-/

namespace CodeAudit.Assist

/-! ### Replies -/

namespace Talk

end Talk

namespace Client

open Talk

variable (c : Client)

end Client

/-! ### Material -/

namespace Material

/--
What is said about an outline of the code, by an analyzer that has no rules.
-/
structure Tells (m : Material) (o : Outline) : Prop where
  totalLines : m.totalLines = .int o.lines.total
  codeLines : m.codeLines = .int o.lines.code
  structureText : m.structureText = .text (Assist.structureText o)
  lintText : m.lintText = .text "无违规"
  complexityText : ∃ text, Assist.complexityText o = .ok text ∧ m.complexityText = .text text
  imports : m.imports = .text (if o.imports = [] then "无" else String.intercalate ", " o.imports)

/--
What is said where nothing is found in the code.
-/
structure Bare (m : Material) : Prop where
  totalLines : m.totalLines = .int 0
  codeLines : m.codeLines = .int 0
  structureText : m.structureText = .text "无结构信息"
  lintText : m.lintText = .text "无违规"
  complexityText : m.complexityText = .text "无高复杂度函数"
  imports : m.imports = .text "无"

end Material

theorem structureText_void {o : Outline} (h : o.Void) : structureText o = "无结构信息" := by
  unfold structureText Outline.functions Outline.classes Outline.methods Outline.ofKind
  rw [h.entries]
  rfl

theorem complexityText_void {o : Outline} (h : o.Void) : complexityText o = .ok "无高复杂度函数" := by
  unfold highComplexity
  rw [complexityText_eq, h.entries]
  rfl

theorem Material.Tells.bare {m : Material} {o : Outline} (h : m.Tells o) (hvoid : o.Void) : m.Bare := by
  rcases h.complexityText with ⟨text, htext, hm⟩
  rw [complexityText_void hvoid] at htext
  cases htext
  constructor
  . rw [h.totalLines, hvoid.lines]
  . rw [h.codeLines, hvoid.lines]
  . rw [h.structureText, structureText_void hvoid]
  . exact h.lintText
  . exact hm
  . rw [h.imports, if_pos hvoid.imports]

namespace Analyzer

/--
The outline that the front end for the language makes of the code. A script with errors in it has one too.
-/
inductive Reads (a : Analyzer) (code : List Char) (path language : String) : Outline → Prop where
  | python (h : a.registry.frontEnd? language = some .python)
    : Reads a code path language (Syntax.outline a.tools.addresses code path)
  | script {script : ScriptLanguage} (h : a.registry.frontEnd? language = some (.script script))
      {parse : Script.Parser} (hparser : a.tools.scriptParser? script = some parse)
    : Reads a code path language (Script.outline script code path (parse code))
  | other {name : String} (h : a.registry.frontEnd? language = some (.other name)) {o : Outline}
      (hready : (a.tools.reader name).ready = .ok ()) (houtline : (a.tools.reader name).outline code path = .ok o)
    : Reads a code path language o

variable {a : Analyzer} {code : List Char} {path language : String}

end Analyzer

end CodeAudit.Assist
