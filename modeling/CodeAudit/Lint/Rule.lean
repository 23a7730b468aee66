import CodeAudit.Lint.Severity
import CodeAudit.Outline

/-!
This module contains rules, what they find in an outline, and what is reported of it.
-/

namespace CodeAudit.Lint

/--
What a rule finds at some lines of a file.
-/
structure Finding where
  message : String
  firstLine : Int
  lastLine : Int
  firstColumn : Option Int := none
  lastColumn : Option Int := none
  entryName : Option String := none
  entryKind : Option String := none
  suggestion : Option String := none
  details : Table Value := []

/--
What is reported: a finding with the rule that made it and the file where it is.
-/
structure Violation extends Finding where
  ruleId : String
  severity : Severity
  path : String

/--
The options of a rule.
-/
abbrev Options := Table Value

/--
How a rule looks at an outline: entry by entry, at those of some kinds (or of all, if it names none),
or at the outline as a whole.
-/
inductive Inspection where
  | entries (kinds : List EntryKind) (inspect : Options → Entry → Except Fault (List Finding))
  | whole (inspect : Options → Outline → Except Fault (List Finding))

/--
What a rule is before it is configured.
-/
structure RuleSpec where
  id : String
  /-- The languages that the rule knows; none means all. -/
  languages : List String := []
  defaultSeverity : Severity := .warn
  defaultOptions : Options := []
  inspection : Inspection

/--
A rule with its severity and its options.
-/
structure Rule where
  spec : RuleSpec
  severity : Severity
  options : Options

namespace RuleSpec

/--
Whether the rule knows a language, in any case of its letters.
-/
def supports (s : RuleSpec) (language : String) : Bool :=
  s.languages.isEmpty || (s.languages.map Unicode.lower).contains (Unicode.lower language)

/--
Make a rule. The given options go over those that it has from the start.
-/
def configure (s : RuleSpec) (severity : Option Severity) (options : Value) : Except Fault Rule := do
  let given ← orFault options.givenOptions
  return {
    spec := s
    severity := severity.getD s.defaultSeverity
    options := s.defaultOptions.overlay given }

/--
The rule as it is from the start.
-/
def standard (s : RuleSpec) : Rule :=
  ⟨s, s.defaultSeverity, s.defaultOptions⟩

end RuleSpec

namespace Rule

/--
Whether the rule runs.
-/
def isEnabled (r : Rule) : Bool :=
  r.severity != .off

/--
Whether the rule looks at entries of a kind.
-/
def targets (kinds : List EntryKind) (e : Entry) : Bool :=
  kinds.isEmpty || kinds.contains e.kind

/--
What the rule finds in an outline. A rule that looks at entries finds nothing in a language that it does
not know.
-/
def findings (r : Rule) (o : Outline) : Except Fault (List Finding) :=
  match r.spec.inspection with
  | .whole inspect => inspect r.options o
  | .entries kinds inspect =>
    if r.spec.supports o.language then do
      let found ← (o.entries.filter (targets kinds)).mapM (inspect r.options)
      return found.flatten
    else .ok []

/--
Report a finding of the rule.
-/
def report (r : Rule) (path : String) (f : Finding) : Violation :=
  { f with ruleId := r.spec.id, severity := r.severity, path }

/--
What the rule reports about an outline.
-/
def check (r : Rule) (o : Outline) : Except Fault (List Violation) := do
  return (← r.findings o).map (r.report o.path)

end Rule

end CodeAudit.Lint
