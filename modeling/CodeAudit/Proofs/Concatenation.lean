import CodeAudit.Lint.Engine
import CodeAudit.Proofs.Fault

/-!
This module contains how the lint of files goes along with the concatenation of lists: what is said about some paths and
then about others is what is said about all of them. So a path adds its result or its fault, whatever stands around it.
-/

namespace CodeAudit.Lint

/--
A report that says what two others say, the one after the other.
-/
structure Report.Joins (r a b : Report) : Prop where
  results : r.results = a.results ++ b.results
  totalErrors : r.totalErrors = a.totalErrors + b.totalErrors
  totalWarnings : r.totalWarnings = a.totalWarnings + b.totalWarnings
  totalViolations : r.totalViolations = a.totalViolations + b.totalViolations
  filesWithIssues : r.filesWithIssues = a.filesWithIssues + b.filesWithIssues
  totalFiles : r.totalFiles = a.totalFiles + b.totalFiles
  allViolations : r.allViolations = a.allViolations ++ b.allViolations

namespace Report

-- The totals are all of this form; only what is counted in a result differs.
theorem foldr_map_append (count : FileResult → Nat) (rs ss : List FileResult)
    : ((rs ++ ss).map count).foldr (· + ·) 0 =
        (rs.map count).foldr (· + ·) 0 + (ss.map count).foldr (· + ·) 0 := by
  rw [List.map_append]
  apply List.sum_append

theorem joins_append (a b : Report) : Joins ⟨a.results ++ b.results⟩ a b := by
  apply Joins.mk
  . rfl
  . apply foldr_map_append
  . apply foldr_map_append
  . apply foldr_map_append
  . simp [filesWithIssues]
  . simp [totalFiles]
  . simp [allViolations]

end Report

namespace Engine

/--
What a path adds to a report: nothing if it is ignored, and otherwise the result of its lint.
-/
def lintPath (e : Engine) (w : Workspace) (path : String) : Except Fault (List FileResult) := do
  if ← e.ignores path then return [] else return [← e.lintFile w path]

/--
A path stops the lint of files: it cannot be told whether the path is ignored, or it is not ignored and its lint stops.
-/
def FailsAt (e : Engine) (w : Workspace) (path : String) (f : Fault) : Prop :=
  e.ignores path = .error f ∨ (e.ignores path = .ok false ∧ e.lintFile w path = .error f)

variable {e : Engine} {w : Workspace} {path : String}

theorem lintPath_eq_error_iff {f : Fault} : e.lintPath w path = .error f ↔ e.FailsAt w path f := by
  unfold lintPath FailsAt
  cases e.ignores path with
  | error g => simp [bind, Except.bind]
  | ok ignored =>
    cases ignored with
    | true => simp [bind, Except.bind, pure, Except.pure]
    | false =>
      cases e.lintFile w path with
      | error g => simp [bind, Except.bind]
      | ok result => simp [bind, Except.bind, pure, Except.pure]

theorem exists_lintPath_iff : (∃ found, e.lintPath w path = .ok found) ↔ ∀ f, ¬ e.FailsAt w path f := by
  simp only [← lintPath_eq_error_iff]
  cases e.lintPath w path with
  | error f => simp
  | ok found => simp

theorem lintFiles_go_eq_mapM (paths : List String)
    : lintFiles.go e w paths = (paths.mapM (e.lintPath w)).map List.flatten := by
  induction paths with
  | nil => rfl
  | cons path rest ih =>
    rw [lintFiles.go, List.mapM_cons, ih]
    generalize rest.mapM (e.lintPath w) = more
    unfold lintPath
    cases e.ignores path with
    | error f => rfl
    | ok ignored =>
      cases ignored with
      | true =>
        cases more with
        | error f => rfl
        | ok found => rfl
      | false =>
        cases e.lintFile w path with
        | error f => rfl
        | ok result =>
          cases more with
          | error f => rfl
          | ok found => rfl

theorem lintFiles_eq_mapM (paths : List String)
    : e.lintFiles w paths = (paths.mapM (e.lintPath w)).map fun found => ⟨found.flatten⟩ := by
  unfold lintFiles
  rw [lintFiles_go_eq_mapM]
  cases paths.mapM (e.lintPath w) with
  | error f => rfl
  | ok found => rfl

theorem lintFiles_append (xs ys : List String)
    : e.lintFiles w (xs ++ ys) = do
        let a ← e.lintFiles w xs
        let b ← e.lintFiles w ys
        return ⟨a.results ++ b.results⟩ := by
  simp only [lintFiles_eq_mapM, List.mapM_append]
  cases xs.mapM (e.lintPath w) with
  | error f => rfl
  | ok found =>
    cases ys.mapM (e.lintPath w) with
    | error f => rfl
    | ok more => simp [bind, Except.bind, pure, Except.pure, Except.map]

/--
The lint of files stops with the fault of the first path that stops it.
-/
theorem lintFiles_eq_error_iff {paths : List String} {f : Fault}
    : e.lintFiles w paths = .error f ↔
        ∃ before path after, paths = before ++ path :: after ∧ (∀ p ∈ before, ∀ g, ¬ e.FailsAt w p g) ∧
          e.FailsAt w path f := by
  have hstops : e.lintFiles w paths = .error f ↔ paths.mapM (e.lintPath w) = .error f := by
    rw [lintFiles_eq_mapM]
    cases paths.mapM (e.lintPath w) with
    | error g => simp [Except.map]
    | ok found => simp [Except.map]
  rw [hstops, mapM_eq_error_iff]
  simp only [exists_lintPath_iff, lintPath_eq_error_iff]

theorem lintFiles_ignored (h : e.ignores path = .ok true) (xs ys : List String)
    : e.lintFiles w (xs ++ path :: ys) = e.lintFiles w (xs ++ ys) := by
  have hnothing : e.lintPath w path = .ok [] := by
    unfold lintPath
    rw [h]
    rfl
  have hpath : e.lintFiles w (path :: ys) = e.lintFiles w ys := by
    rw [lintFiles_eq_mapM, lintFiles_eq_mapM, List.mapM_cons, hnothing]
    cases ys.mapM (e.lintPath w) with
    | error f => rfl
    | ok found => rfl
  rw [lintFiles_append, lintFiles_append, hpath]

/--
The lint of some files and then others is the lint of all of them. It stops exactly if one of the two stops, with the
fault of the first path that stops it. Otherwise its report joins those of the two. A path that is ignored adds nothing,
wherever it stands.
-/
theorem lintFiles_joins (e : Engine) (w : Workspace) (xs ys : List String)
    : (e.lintFiles w (xs ++ ys) = do
        let a ← e.lintFiles w xs
        let b ← e.lintFiles w ys
        return ⟨a.results ++ b.results⟩) ∧
      ((∃ f, e.lintFiles w (xs ++ ys) = .error f) ↔
        (∃ f, e.lintFiles w xs = .error f) ∨ ∃ f, e.lintFiles w ys = .error f) ∧
      (∀ f, e.lintFiles w (xs ++ ys) = .error f ↔
        ∃ before path after, xs ++ ys = before ++ path :: after ∧ (∀ p ∈ before, ∀ g, ¬ e.FailsAt w p g) ∧
          e.FailsAt w path f) ∧
      (∀ a b, e.lintFiles w xs = .ok a → e.lintFiles w ys = .ok b →
        ∃ r, e.lintFiles w (xs ++ ys) = .ok r ∧ r.Joins a b) ∧
      ∀ path, e.ignores path = .ok true → e.lintFiles w (xs ++ path :: ys) = e.lintFiles w (xs ++ ys) := by
  refine ⟨lintFiles_append xs ys, ?_, ?_, ?_, ?_⟩
  . rw [lintFiles_append]
    cases e.lintFiles w xs with
    | error f => simp [bind, Except.bind]
    | ok a =>
      cases e.lintFiles w ys with
      | error f => simp [bind, Except.bind]
      | ok b => simp [bind, Except.bind, pure, Except.pure]
  . intro f
    apply lintFiles_eq_error_iff
  . intro a b ha hb
    rw [lintFiles_append, ha, hb]
    exact ⟨_, rfl, Report.joins_append a b⟩
  . intro path hpath
    apply lintFiles_ignored hpath

end Engine

end CodeAudit.Lint
