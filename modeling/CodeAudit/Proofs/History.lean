import CodeAudit.Proofs.Reconfiguration
import CodeAudit.Proofs.Verdict

/-!
This module contains what is left of the past of an engine once it is given another configuration: nothing but
the rules that it knows.
-/

namespace CodeAudit.Lint

namespace Operation

/--
The configuration that the operation gives to an engine, where it does that and the configuration can be
made.
-/
def config? : Operation → Option (Except Fault Config)
  | .loadConfig formats files path folder => some (Config.load formats files path folder)
  | .usePreset name => some (Config.ofPresetValue name)
  | _ => none

/--
The rules that the operation makes known.
-/
def registered : Operation → List RuleSpec
  | .register spec => [spec]
  | .registerBuiltin => builtinRules
  | _ => []

theorem registered_of_config? {operation : Operation} {loaded : Except Fault Config}
    (h : operation.config? = some loaded) : operation.registered = [] := by
  cases operation with
  | register spec => cases h
  | registerBuiltin => cases h
  | _ => rfl

end Operation

namespace Engine

/-! ### The known rules -/

theorem foldl_register_congr {e₁ e₂ : Engine} (h : e₁.specs = e₂.specs) (specs : List RuleSpec)
    : (specs.foldl register e₁).specs = (specs.foldl register e₂).specs := by
  induction specs generalizing e₁ e₂ with
  | nil => exact h
  | cons spec specs ih =>
    apply ih
    unfold register
    rw [h]

theorem perform_specs (e : Engine) (operation : Operation)
    : (e.perform operation).1.specs = (operation.registered.foldl register e).specs := by
  cases operation with
  | register spec => rfl
  | registerBuiltin => rfl
  | loadConfig formats files path folder => exact use_specs e _
  | usePreset name => exact use_specs e _
  | apply => exact apply_specs e
  | configureRule id severity options =>
    unfold perform
    dsimp only
    split
    . next h => exact configureRule_specs h
    . rfl
  | lint o => rfl
  | lintFile w path => rfl
  | lintFiles w paths => rfl
  | lintFolder w folder recursive endings => rfl

/--
Which rules an engine knows, and in which order, depends on the registrations in its past alone.
-/
theorem run_specs (operations : List Operation)
    : (run operations).specs = ((operations.flatMap Operation.registered).foldl register {}).specs := by
  have hfrom : ∀ e : Engine, (operations.foldl (fun e operation => (e.perform operation).1) e).specs =
      ((operations.flatMap Operation.registered).foldl register e).specs := by
    induction operations with
    | nil =>
      intro e
      rfl
    | cons operation operations ih =>
      intro e
      rw [List.foldl_cons, ih, List.flatMap_cons, List.foldl_append]
      apply foldl_register_congr
      exact perform_specs e operation
  exact hfrom {}

theorem run_concat (operations : List Operation) (operation : Operation)
    : run (operations ++ [operation]) = ((run operations).perform operation).1 := by
  unfold run
  rw [List.foldl_append]
  rfl

theorem run_specs_drop {operation : Operation} (h : operation.registered = []) (before after : List Operation)
    : (run (before ++ operation :: after)).specs = (run (before ++ after)).specs := by
  rw [run_specs, run_specs, List.flatMap_append, List.flatMap_append, List.flatMap_cons, h, List.nil_append]

/-! ### Another configuration -/

theorem perform_eq_use {operation : Operation} {loaded : Except Fault Config}
    (h : operation.config? = some loaded) (e : Engine) : e.perform operation = e.use loaded := by
  cases operation with
  | loadConfig formats files path folder =>
    cases h
    rfl
  | usePreset name =>
    cases h
    rfl
  | _ => cases h

theorem use_eq (e : Engine) (c : Config)
    : e.use (.ok c)
        =
      (⟨e.specs, (activate c [] (e.specs.map (·.2))).1, some c⟩, (activate c [] (e.specs.map (·.2))).2) := rfl

theorem use_congr {e₁ e₂ : Engine} (hspecs : e₁.specs = e₂.specs) (c : Config)
    : e₁.use (.ok c) = e₂.use (.ok c) := by
  rw [use_eq, use_eq, hspecs]

theorem apply_use (e : Engine) (c : Config) : (e.use (.ok c)).1.apply = e.use (.ok c) := by
  rw [use_eq]
  rfl

/--
Let two engines know the same rules in the same order, whatever they went through, and let both be given the
same configuration, which can be made. Then they are left in the same state, with the same fault if there is
one. To apply the configuration once more changes nothing. And if a configuration was given earlier, or was to
be given and stopped at a fault, then all is as if that had never been tried, whatever came between.
-/
theorem reconfiguration_forgets {before₁ before₂ : List Operation}
    (hspecs : (run before₁).specs = (run before₂).specs) {operation : Operation} {c : Config}
    (hconfig : operation.config? = some (.ok c))
    : (run before₁).perform operation = (run before₂).perform operation ∧
      ((run before₁).perform operation).1.apply = (run before₁).perform operation ∧
      ∀ earlier loaded between, earlier.config? = some loaded →
        (run (before₁ ++ earlier :: between)).perform operation =
          (run (before₁ ++ between)).perform operation := by
  simp only [perform_eq_use hconfig]
  refine ⟨use_congr hspecs c, apply_use _ c, ?_⟩
  intro earlier loaded between hearlier
  apply use_congr
  exact run_specs_drop (Operation.registered_of_config? hearlier) before₁ between

-- Two pasts: one ends in a fault that leaves two of eight rules active, the other configures and lints.
def stoppedPast : List Operation :=
  [.registerBuiltin, .usePreset (.text "strict")] ++ [.loadConfig {} loudFiles (some "lint.json") none]

def configuredPast : List Operation :=
  [.registerBuiltin, .configureRule "naming/class-naming" (some .error) .null, .lint boxOutline]

theorem load_layeredFiles
    : ∃ c, Config.load {} layeredFiles (some "lint.json") none = .ok c := by
  rw [Config.load_eq, source?_layeredFiles]
  exact ⟨_, rfl⟩

theorem active_stoppedPast
    : (run stoppedPast).active.names = ["complexity/max-complexity", "complexity/max-function-lines"] := by
  unfold stoppedPast
  rw [run_concat]
  unfold perform
  dsimp only
  rw [loadConfig_eq source?_loudFiles rfl]
  decide +kernel

theorem reconfiguration_forgets_stoppedPast
    : let operation := Operation.loadConfig {} layeredFiles (some "lint.json") none
      (run stoppedPast).active.names = ["complexity/max-complexity", "complexity/max-function-lines"] ∧
        (run configuredPast).active.names = ["naming/class-naming"] ∧
        (run stoppedPast).perform operation = (run configuredPast).perform operation ∧
        ((run stoppedPast).perform operation).1.apply = (run stoppedPast).perform operation ∧
        (run (stoppedPast ++ .usePreset (.list []) :: [.apply])).perform operation =
          (run (stoppedPast ++ [.apply])).perform operation := by
  intro operation
  have hspecs : (run stoppedPast).specs = (run configuredPast).specs := by
    rw [run_specs, run_specs]
    rfl
  rcases load_layeredFiles with ⟨c, hc⟩
  have hconfig : operation.config? = some (.ok c) := congrArg some hc
  have hforgets := reconfiguration_forgets hspecs hconfig
  exact ⟨active_stoppedPast, by decide +kernel, hforgets.1, hforgets.2.1, hforgets.2.2 _ _ _ rfl⟩

end Engine

end CodeAudit.Lint
