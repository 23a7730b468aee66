import CodeAudit.Lint.Rule

/-!
This module contains what a lint says about one file and about several files.
-/

namespace CodeAudit.Lint

/--
What a lint says about one file: the violations, how many of them are errors and warnings, and what
kept the file from being read.
-/
structure FileResult where
  path : String
  violations : List Violation := []
  errorCount : Nat := 0
  warningCount : Nat := 0
  problems : List String := []

namespace FileResult

/--
Add a violation and count it.
-/
def add (r : FileResult) (v : Violation) : FileResult :=
  { r with
    violations := r.violations ++ [v]
    errorCount := if v.severity = .error then r.errorCount + 1 else r.errorCount
    warningCount := if v.severity = .warn then r.warningCount + 1 else r.warningCount }

/--
Add violations one after the other.
-/
def addAll (r : FileResult) (vs : List Violation) : FileResult :=
  vs.foldl add r

/-- Whether there is an error. -/
def hasErrors (r : FileResult) : Bool := r.errorCount > 0

/-- Whether there is a warning. -/
def hasWarnings (r : FileResult) : Bool := r.warningCount > 0

/-- Whether there is anything to say. -/
def hasIssues (r : FileResult) : Bool := !r.violations.isEmpty || !r.problems.isEmpty

end FileResult

/--
What a lint says about several files.
-/
structure Report where
  results : List FileResult := []

namespace Report

/--
Add what is said about one more file.
-/
def add (r : Report) (result : FileResult) : Report :=
  ⟨r.results ++ [result]⟩

/-- How many errors there are. -/
def totalErrors (r : Report) : Nat := (r.results.map (·.errorCount)).foldr (· + ·) 0

/-- How many warnings there are. -/
def totalWarnings (r : Report) : Nat := (r.results.map (·.warningCount)).foldr (· + ·) 0

/-- How many violations there are. -/
def totalViolations (r : Report) : Nat := (r.results.map (·.violations.length)).foldr (· + ·) 0

/-- How many files have issues. -/
def filesWithIssues (r : Report) : Nat := (r.results.filter (·.hasIssues)).length

/-- How many files there are. -/
def totalFiles (r : Report) : Nat := r.results.length

/-- Whether there is an error. -/
def hasErrors (r : Report) : Bool := r.totalErrors > 0

/-- All violations, file by file. -/
def allViolations (r : Report) : List Violation := r.results.flatMap (·.violations)

end Report

end CodeAudit.Lint
