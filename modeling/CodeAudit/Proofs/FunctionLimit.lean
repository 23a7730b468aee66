import CodeAudit.Proofs.Survey
import CodeAudit.Proofs.Verdict

/-!
This module contains what the limits to functions count in a module. The limit to parameters counts those that may
be given by position and by name, and no others. The limit to functions counts those that are in no class, also
if they are in another function.
-/

namespace CodeAudit.Lint.Rule

variable {r : Rule} {max : Int}

/-! ### The rules -/

theorem regular_of_bound (hbuiltin : r.spec ∈ builtinRules) (hstyle : r.spec.defaultOptions.get? "style" = none)
    (hmax : r.bound? = some max) : r.Regular := by
  refine ⟨hbuiltin, ?_, ?_⟩
  . intro v hv
    exact exists_integer hmax hv
  . intro v hv
    simp [option?, hstyle] at hv

/--
The violation is about an entry with these parameters.
-/
def TellsParams (r : Rule) (path : String) (e : Entry) (v : Violation) : Prop :=
  v.mark = r.entryMark path e ∧ v.details.get? "actual" = some (.int (givenParams e).length) ∧
    v.details.get? "params" = some (nameList (givenParams e))

theorem check_maxParams (hspec : r.spec = maxParams) (hmax : r.bound? = some max) (o : Outline)
    : ∃ vs, r.check o = .ok vs ∧ List.Forall₂ (r.TellsParams o.path)
        (o.entries.filter fun e => e.IsFunction ∧ max < (givenParams e).length) vs := by
  rcases r with ⟨spec, severity, options⟩
  obtain rfl : spec = maxParams := hspec
  have hregular : Regular ⟨maxParams, severity, options⟩ := regular_of_bound (by simp [builtinRules]) rfl hmax
  have hfound := findings_entries (r := ⟨maxParams, severity, options⟩) rfl rfl
    (fun e => overLimit_eq hregular rfl _ _) o
  refine ⟨_, check_eq_ok hfound, ?_⟩
  have hfilter : ((o.entries.filter (targets functionKinds)).filter fun e =>
      Exceeded ⟨maxParams, severity, options⟩ (givenParams e).length) =
      o.entries.filter fun e => e.IsFunction ∧ max < (givenParams e).length := by
    rw [List.filter_filter]
    apply List.filter_congr
    intro e _
    simp [exceeded_iff hmax, ← targets_functionKinds, Bool.and_comm]
  rw [List.map_map, List.forall₂_map_right_iff, hfilter, List.forall₂_same]
  intro e _
  exact ⟨rfl, rfl, rfl⟩

/--
What there is to report about a file with these functions: that they are more than the bound, with their names, or
else nothing.
-/
def LimitsFunctions (max : Int) (names : List String) (vs : List Violation) : Prop :=
  (vs ≠ [] ↔ max < names.length) ∧ vs.length ≤ 1 ∧
    ∀ v ∈ vs, v.details.get? "actual" = some (.int names.length) ∧
      v.details.get? "functions" = some (nameList names)

theorem check_maxFunctionsPerFile (hspec : r.spec = maxFunctionsPerFile) (hmax : r.bound? = some max) (o : Outline)
    : ∃ vs, r.check o = .ok vs ∧ LimitsFunctions max (o.functions.map (·.name)) vs := by
  rcases r with ⟨spec, severity, options⟩
  obtain rfl : spec = maxFunctionsPerFile := hspec
  have hregular : Regular ⟨maxFunctionsPerFile, severity, options⟩ :=
    regular_of_bound (by simp [builtinRules]) rfl hmax
  have hfound : findings ⟨maxFunctionsPerFile, severity, options⟩ o = .ok _ := overLimit_eq hregular rfl _ _
  refine ⟨_, check_eq_ok hfound, ?_⟩
  simp only [exceeded_iff hmax]
  unfold LimitsFunctions
  rw [List.length_map]
  split
  . next hlt =>
    refine ⟨by simp [hlt], by simp, ?_⟩
    simp only [List.map_singleton, List.mem_singleton, forall_eq]
    exact ⟨rfl, rfl⟩
  . next hle => simp [hle]

end CodeAudit.Lint.Rule

namespace CodeAudit.Syntax

open Lint

/-! ### The functions of a module -/

/--
A function definition with the nodes above it, from the nearest on.
-/
structure DefinedFunction where
  above : List Node
  head : FunctionHead
  body : List Stmt

/--
The function definition at a place, if there is one.
-/
def Occurrence.function? (o : Occurrence) : Option DefinedFunction :=
  match o.node with
  | .stmt (.functionDef head body) => some ⟨o.above, head, body⟩
  | _ => none

/--
Whether a node defines a function.
-/
def Node.isFunction : Node → Bool
  | .stmt (.functionDef _ _) => true
  | _ => false

/--
The function definitions of a module, however deep they are nested.
-/
def functions (body : List Stmt) : List DefinedFunction :=
  (Node.preorders [] (body.map .stmt)).filterMap Occurrence.function?

namespace DefinedFunction

def entry (addresses : Addresses) (f : DefinedFunction) : Entry :=
  Survey.functionEntry addresses (f.above.findSome? Node.className?) f.head f.body

/-- There is a class around the function. -/
def InClass (f : DefinedFunction) : Prop :=
  ∃ n ∈ f.above, n.className?.isSome

/-- There is another function around the function. -/
def InFunction (f : DefinedFunction) : Prop :=
  ∃ n ∈ f.above, n.isFunction

instance : DecidablePred InClass := fun _ => inferInstanceAs (Decidable (∃ _ ∈ _, _))

instance : DecidablePred InFunction := fun _ => inferInstanceAs (Decidable (∃ _ ∈ _, _))

variable {addresses : Addresses}

theorem isFunction_entry (f : DefinedFunction) : (f.entry addresses).IsFunction := by
  unfold Entry.IsFunction entry Survey.functionEntry
  dsimp only
  split
  . exact Or.inr rfl
  . exact Or.inl rfl

theorem kind_entry_iff (f : DefinedFunction) : (f.entry addresses).kind = .function ↔ ¬ f.InClass := by
  unfold entry Survey.functionEntry InClass
  rw [← Survey.any_findSome?_className?]
  dsimp only
  split
  . next howner => simp [howner]
  . next howner => simp [howner]

end DefinedFunction

variable {addresses : Addresses}

theorem filter_entry?_function (os : List Occurrence)
    : (os.filterMap (Occurrence.entry? addresses)).filter (fun e => e.IsFunction) =
        (os.filterMap Occurrence.function?).map (DefinedFunction.entry addresses) := by
  rw [List.filter_filterMap, List.map_filterMap]
  congr 1
  funext o
  rcases o with ⟨above, node⟩
  unfold Occurrence.entry? Occurrence.function?
  dsimp only
  split
  . next head body =>
    have hfunction := @DefinedFunction.isFunction_entry addresses ⟨above, head, body⟩
    exact Option.filter_some_pos (decide_eq_true hfunction)
  . rfl
  . next hnone _ =>
    split
    . exact absurd rfl (hnone _ _)
    . rfl

theorem filter_entries_ofModule (body : List Stmt) {p : Entry → Prop} [DecidablePred p]
    (hp : ∀ e, p e → e.IsFunction)
    : (Survey.ofModule addresses body).entries.filter (fun e => p e) =
        ((functions body).filter fun f => p (f.entry addresses)).map (DefinedFunction.entry addresses) := by
  have hentries : (Survey.ofModule addresses body).entries =
      (Node.preorders [] (body.map .stmt)).filterMap (Occurrence.entry? addresses) := by
    rw [Survey.ofModule, Survey.visitAll_eq { addresses } body [] rfl]
    rfl
  calc (Survey.ofModule addresses body).entries.filter (fun e => p e)
      = ((Survey.ofModule addresses body).entries.filter fun e => e.IsFunction).filter fun e => p e := by
        rw [List.filter_filter]
        apply List.filter_congr
        intro e _
        by_cases h : p e
        . simp [h, hp e h]
        . simp [h]
    _ = ((functions body).map (DefinedFunction.entry addresses)).filter fun e => p e := by
        rw [hentries, filter_entry?_function]
        rfl
    _ = ((functions body).filter fun f => p (f.entry addresses)).map (DefinedFunction.entry addresses) := by
        rw [List.filter_map]
        rfl

/--
The outline of a module with the given counts of lines.
-/
def moduleOutline (addresses : Addresses) (body : List Stmt) (path : String) (counts : Text.LineCounts) :
    Outline where
  path
  language := languageName
  entries := (Survey.ofModule addresses body).entries
  imports := (Survey.ofModule addresses body).imports
  lines := counts

theorem outline_eq_moduleOutline {code : List Char} {body : List Stmt} (h : parse? code = some body) (path : String)
    : outline addresses code path = moduleOutline addresses body path (lineCounts code) := by
  unfold outline
  rw [h]
  rfl

/-! ### Parameters -/

namespace Parameters

/--
All parameters that are declared.
-/
def declared (ps : Parameters) : List Parameter :=
  ps.positionalOnly ++ ps.ordinary ++ ps.rest.toList ++ ps.keywordOnly ++ ps.keywordRest.toList

/--
The names that the limit to parameters counts.
-/
def counted (ps : Parameters) : List String :=
  (ps.ordinary.map (·.name)).filter fun p => p ≠ "self" ∧ p ≠ "cls"

/--
Every parameter stands for one argument, and none for the object or the class of a method.
-/
structure Plain (ps : Parameters) : Prop where
  rest : ps.rest = none
  keywordRest : ps.keywordRest = none
  named : ∀ p ∈ ps.declared, p.name ≠ "self" ∧ p.name ≠ "cls"

theorem plain_iff (ps : Parameters)
    : ps.Plain ↔ ps.rest.isNone ∧ ps.keywordRest.isNone ∧
        ∀ p ∈ ps.declared, p.name ≠ "self" ∧ p.name ≠ "cls" := by
  simp only [Option.isNone_iff_eq_none]
  constructor
  . intro h
    exact ⟨h.rest, h.keywordRest, h.named⟩
  . intro h
    exact ⟨h.1, h.2.1, h.2.2⟩

instance : DecidablePred Plain := fun ps => decidable_of_iff _ (plain_iff ps).symm

theorem Plain.length_counted {ps : Parameters} (h : ps.Plain) : ps.counted.length = ps.ordinary.length := by
  have hall : ps.counted = ps.ordinary.map (·.name) := by
    unfold counted
    rw [List.filter_eq_self, List.forall_mem_map]
    intro p hp
    apply decide_eq_true
    apply h.named
    simp [declared, hp]
  rw [hall, List.length_map]

theorem Plain.length_declared {ps : Parameters} (h : ps.Plain)
    : ps.declared.length = ps.positionalOnly.length + ps.counted.length + ps.keywordOnly.length := by
  simp only [declared, h.rest, h.keywordRest, h.length_counted, List.length_append, Option.toList_none,
    List.length_nil]
  omega

end Parameters

theorem givenParams_entry (f : DefinedFunction)
    : givenParams (f.entry addresses) = f.head.parameters.counted :=
  Rule.givenParams_eq (f.entry addresses)

/--
The violation is about the parameters of the function.
-/
def BlamesParams (r : Rule) (path : String) (f : DefinedFunction) (v : Violation) : Prop :=
  v.ruleId = r.spec.id ∧ v.severity = r.severity ∧ v.path = path ∧ v.entryName = some f.head.name ∧
    v.firstLine = f.head.span.first ∧ v.lastLine = f.head.span.last ∧
    v.details.get? "actual" = some (.int f.head.parameters.counted.length) ∧
    v.details.get? "params" = some (nameList f.head.parameters.counted)

theorem blamesParams_of_tells {r : Rule} {path : String} {f : DefinedFunction} {v : Violation}
    (h : r.TellsParams path (f.entry addresses) v) : BlamesParams r path f v := by
  rcases h with ⟨hmark, hactual, hparams⟩
  rw [givenParams_entry] at hactual hparams
  simp only [Violation.mark, Rule.entryMark, Mark.mk.injEq] at hmark
  rcases hmark with ⟨hid, hseverity, hpath, hfirst, hlast, hname, _⟩
  exact ⟨hid, hseverity, hpath, hname, hfirst, hlast, hactual, hparams⟩

theorem check_module_params {r : Rule} {max : Int} (hspec : r.spec = maxParams) (hmax : r.bound? = some max)
    (body : List Stmt) (path : String) (counts : Text.LineCounts)
    : ∃ vs, r.check (moduleOutline addresses body path counts) = .ok vs ∧ List.Forall₂ (BlamesParams r path)
        ((functions body).filter fun f => max < f.head.parameters.counted.length) vs := by
  rcases r.check_maxParams hspec hmax (moduleOutline addresses body path counts) with ⟨vs, hcheck, htells⟩
  refine ⟨vs, hcheck, ?_⟩
  have hfilter := @filter_entries_ofModule addresses body (fun e => e.IsFunction ∧ max < (givenParams e).length) _
    fun e he => he.1
  simp only [DefinedFunction.isFunction_entry, true_and, givenParams_entry] at hfilter
  unfold moduleOutline at htells
  rw [hfilter, List.forall₂_map_left_iff] at htells
  apply htells.imp
  intro f v h
  exact blamesParams_of_tells h

/--
The limit to parameters reports exactly the functions with more ordinary parameters than the bound, where the object and
the class of a method do not count. So a function without these two and without parameters for further arguments is
judged by the number of all its parameters, whatever the bound is, exactly if all of them are ordinary. For one bound
it is so unless the bound is between the two numbers.
-/
theorem maxParams_counts_ordinary (addresses : Addresses) (body : List Stmt) (path : String)
    : (∀ code, parse? code = some body →
        outline addresses code path = moduleOutline addresses body path (lineCounts code)) ∧
      (∀ (counts : Text.LineCounts) (r : Rule) (max : Int), r.spec = maxParams → r.bound? = some max →
        ∃ vs, r.check (moduleOutline addresses body path counts) = .ok vs ∧ List.Forall₂ (BlamesParams r path)
          ((functions body).filter fun f => max < f.head.parameters.counted.length) vs) ∧
      ∀ f ∈ functions body, f.head.parameters.Plain →
        (∀ max : Int,
          (max < f.head.parameters.counted.length ↔ max < f.head.parameters.declared.length) ↔
            max < f.head.parameters.ordinary.length ∨ f.head.parameters.declared.length ≤ max) ∧
        ((∀ max : Int, max < f.head.parameters.counted.length ↔ max < f.head.parameters.declared.length) ↔
          f.head.parameters.positionalOnly = [] ∧ f.head.parameters.keywordOnly = []) := by
  refine ⟨?_, ?_, ?_⟩
  . intro code h
    exact outline_eq_moduleOutline h path
  . intro counts r max hspec hmax
    exact check_module_params hspec hmax body path counts
  . intro f _ hplain
    have hdeclared := hplain.length_declared
    have hcounted := hplain.length_counted
    rw [← List.length_eq_zero_iff, ← List.length_eq_zero_iff]
    refine ⟨fun max => by omega, ?_, ?_⟩
    . intro h
      have := h f.head.parameters.counted.length
      omega
    . intro h max
      omega

-- The first function has a parameter of each kind, the second has ordinary ones only.
def mixedCode : List Char := "def f(a, /, b, *, c):\n    pass\n\ndef g(a, b):\n    pass\n".toList

def mixedRule : Rule := ⟨maxParams, .warn, [("max", .int 1)]⟩

theorem functions_mixedCode
    : ∃ body ∈ parse? mixedCode,
        ((functions body).filter fun f => 1 < (f.head.parameters.counted.length : Int)).map (·.head.name) = ["g"] ∧
        ∃ f ∈ functions body, f.head.name = "f" ∧ f.head.parameters.Plain ∧
          f.head.parameters.positionalOnly.length = 1 ∧ f.head.parameters.declared.length = 3 := by
  decide +kernel

theorem maxParams_counts_ordinary_mixedCode
    : ∃ body, parse? mixedCode = some body ∧ mixedRule.spec = maxParams ∧ mixedRule.bound? = some 1 ∧
      (∃ vs, mixedRule.check (outline (fun _ _ => 0) mixedCode "m.py") = .ok vs ∧
        List.Forall₂ (BlamesParams mixedRule "m.py")
          ((functions body).filter fun f => 1 < (f.head.parameters.counted.length : Int)) vs) ∧
      ((functions body).filter fun f => 1 < (f.head.parameters.counted.length : Int)).map (·.head.name) = ["g"] ∧
      ∃ f ∈ functions body, f.head.name = "f" ∧ f.head.parameters.Plain ∧
        ¬ ∀ max : Int, max < f.head.parameters.counted.length ↔ max < f.head.parameters.declared.length := by
  rcases functions_mixedCode with ⟨body, hbody, hnames, f, hf, hname, hplain, honly, _⟩
  rcases maxParams_counts_ordinary (fun _ _ => 0) body "m.py" with ⟨houtline, hcheck, hagrees⟩
  refine ⟨body, hbody, rfl, rfl, ?_, hnames, f, hf, hname, hplain, ?_⟩
  . rw [houtline mixedCode hbody]
    exact hcheck (lineCounts mixedCode) mixedRule 1 rfl rfl
  . rw [(hagrees f hf hplain).2]
    rintro ⟨hnil, _⟩
    simp [hnil] at honly

/--
The first function has three parameters, of which only one counts, so that it is not reported.
-/
theorem maxParams_misses_mixedCode
    : ∃ body, parse? mixedCode = some body ∧
      (∃ f ∈ functions body, f.head.name = "f" ∧ f.head.parameters.Plain ∧
        1 < f.head.parameters.declared.length) ∧
      ∃ vs, mixedRule.check (outline (fun _ _ => 0) mixedCode "m.py") = .ok vs ∧ vs.map (·.entryName) = [some "g"] := by
  rcases functions_mixedCode with ⟨body, hbody, hnames, f, hf, hname, hplain, _, hthree⟩
  refine ⟨body, hbody, ⟨f, hf, hname, hplain, by omega⟩, ?_⟩
  rw [outline_eq_moduleOutline hbody]
  rcases check_module_params (r := mixedRule) rfl rfl body "m.py" (lineCounts mixedCode) with ⟨vs, hcheck, hblames⟩
  refine ⟨vs, hcheck, ?_⟩
  have hreported : (((functions body).filter fun f => 1 < (f.head.parameters.counted.length : Int)).map
      (·.head.name)).map some = vs.map (·.entryName) := by
    rw [List.map_map, ← List.forall₂_eq_eq_eq, List.forall₂_map_left_iff, List.forall₂_map_right_iff]
    apply hblames.imp
    intro f v h
    exact h.2.2.2.1.symm
  rw [← hreported, hnames]
  rfl

/-! ### Functions in functions -/

/--
The functions of a module that are in no class.
-/
def freeFunctions (body : List Stmt) : List DefinedFunction :=
  (functions body).filter fun f => ¬ f.InClass

/--
The functions of a module that are in no class and in no other function.
-/
def topFunctions (body : List Stmt) : List DefinedFunction :=
  (functions body).filter fun f => ¬ f.InClass ∧ ¬ f.InFunction

theorem functions_moduleOutline (body : List Stmt) (path : String) (counts : Text.LineCounts)
    : (moduleOutline addresses body path counts).functions =
        (freeFunctions body).map (DefinedFunction.entry addresses) := by
  have hfilter := @filter_entries_ofModule addresses body (fun e => e.kind = .function) _ fun e he => Or.inl he
  simp only [DefinedFunction.kind_entry_iff] at hfilter
  exact hfilter

theorem topFunctions_sublist (body : List Stmt) : List.Sublist (topFunctions body) (freeFunctions body) := by
  apply List.monotone_filter_right
  intro f hf
  simp only [decide_eq_true_eq] at hf ⊢
  exact hf.1

theorem topFunctions_eq_iff (body : List Stmt)
    : topFunctions body = freeFunctions body ↔ ∀ f ∈ functions body, f.InFunction → f.InClass := by
  constructor
  . intro h f hf hfunction
    by_contra hclass
    have hmem : f ∈ freeFunctions body := by simp [freeFunctions, hf, hclass]
    rw [← h] at hmem
    simp [topFunctions, hfunction] at hmem
  . intro h
    apply List.filter_congr
    intro f hf
    have := h f hf
    rw [decide_eq_decide]
    tauto

theorem check_module_functions {r : Rule} {max : Int} (hspec : r.spec = maxFunctionsPerFile)
    (hmax : r.bound? = some max) (body : List Stmt) (path : String) (counts : Text.LineCounts)
    : ∃ vs, r.check (moduleOutline addresses body path counts) = .ok vs ∧
        Rule.LimitsFunctions max ((freeFunctions body).map (·.head.name)) vs := by
  have hcheck := r.check_maxFunctionsPerFile hspec hmax (moduleOutline addresses body path counts)
  rw [functions_moduleOutline, List.map_map] at hcheck
  exact hcheck

/--
The limit to functions counts and names exactly the functions that are in no class. So it is a limit to those that are
also in no other function, whatever the bound is, exactly if each function in another one is in a class as well.
-/
theorem maxFunctionsPerFile_counts_free (addresses : Addresses) (body : List Stmt) (path : String)
    : (∀ code, parse? code = some body →
        outline addresses code path = moduleOutline addresses body path (lineCounts code)) ∧
      (∀ (counts : Text.LineCounts) (r : Rule) (max : Int), r.spec = maxFunctionsPerFile → r.bound? = some max →
        ∃ vs, r.check (moduleOutline addresses body path counts) = .ok vs ∧
          Rule.LimitsFunctions max ((freeFunctions body).map (·.head.name)) vs) ∧
      ((∀ (counts : Text.LineCounts) (r : Rule) (max : Int), r.spec = maxFunctionsPerFile → r.bound? = some max →
          ∃ vs, r.check (moduleOutline addresses body path counts) = .ok vs ∧
            Rule.LimitsFunctions max ((topFunctions body).map (·.head.name)) vs) ↔
        ∀ f ∈ functions body, f.InFunction → f.InClass) := by
  refine ⟨?_, ?_, ?_, ?_⟩
  . intro code h
    exact outline_eq_moduleOutline h path
  . intro counts r max hspec hmax
    exact check_module_functions hspec hmax body path counts
  . intro h
    rw [← topFunctions_eq_iff]
    apply (topFunctions_sublist body).eq_of_length_le
    -- With their number for a bound, the functions outside of others are not too many, so there is no violation.
    have hbound : Rule.bound? ⟨maxFunctionsPerFile, .warn, [("max", .int (topFunctions body).length)]⟩ =
        some ((topFunctions body).length : Int) := rfl
    rcases h {} _ _ rfl hbound with ⟨vs, hcheck, htop, _⟩
    rcases check_module_functions rfl hbound body path {} with ⟨vs', hcheck', hfree, _⟩
    cases hcheck.symm.trans hcheck'
    rw [htop] at hfree
    simp only [List.length_map] at hfree
    omega
  . intro h counts r max hspec hmax
    rw [(topFunctions_eq_iff body).mpr h]
    exact check_module_functions hspec hmax body path counts

-- A function under a condition, and a function in a method.
def steppedCode : List Char :=
  "if a:\n    def f(): pass\nclass K:\n    def g(self):\n        def h(): pass\n".toList

def steppedRule : Rule := ⟨maxFunctionsPerFile, .warn, [("max", .int 0)]⟩

theorem maxFunctionsPerFile_counts_free_steppedCode
    : ∃ body, parse? steppedCode = some body ∧ (∀ f ∈ functions body, f.InFunction → f.InClass) ∧
      steppedRule.spec = maxFunctionsPerFile ∧ steppedRule.bound? = some 0 ∧
      ∃ vs, steppedRule.check (outline (fun _ _ => 0) steppedCode "m.py") = .ok vs ∧
        Rule.LimitsFunctions 0 ["f"] vs := by
  have hcode : ∃ body ∈ parse? steppedCode,
      (topFunctions body).map (·.head.name) = ["f"] ∧ ∀ f ∈ functions body, f.InFunction → f.InClass := by
    decide +kernel
  rcases hcode with ⟨body, hbody, hnames, hnested⟩
  rcases maxFunctionsPerFile_counts_free (fun _ _ => 0) body "m.py" with ⟨houtline, _, hlimits⟩
  refine ⟨body, hbody, hnested, rfl, rfl, ?_⟩
  rw [houtline steppedCode hbody, ← hnames]
  exact hlimits.mpr hnested (lineCounts steppedCode) steppedRule 0 rfl rfl

-- A function in a function.
def wrappedCode : List Char := "def f():\n    def g():\n        pass\n".toList

def wrappedRule : Rule := ⟨maxFunctionsPerFile, .warn, [("max", .int 1)]⟩

/--
Only one function is in no other one, and yet more than one is reported.
-/
theorem maxFunctionsPerFile_wrappedCode
    : (∃ body ∈ parse? wrappedCode, (topFunctions body).map (·.head.name) = ["f"]) ∧
      ∃ v, wrappedRule.check (outline (fun _ _ => 0) wrappedCode "m.py") = .ok [v] ∧
        v.details.get? "functions" = some (nameList ["f", "g"]) := by
  have hcode : ∃ body ∈ parse? wrappedCode,
      (topFunctions body).map (·.head.name) = ["f"] ∧ (freeFunctions body).map (·.head.name) = ["f", "g"] := by
    decide +kernel
  rcases hcode with ⟨body, hbody, htop, hfree⟩
  refine ⟨⟨body, hbody, htop⟩, ?_⟩
  rcases check_module_functions (r := wrappedRule) rfl rfl body "m.py" (lineCounts wrappedCode)
    with ⟨vs, hcheck, hlimits⟩
  rw [hfree] at hlimits
  rw [outline_eq_moduleOutline hbody]
  rcases hlimits with ⟨hreported, hone, hdetails⟩
  have hlength : vs.length = 1 := by
    have := List.length_pos_iff.mpr (hreported.mpr (by decide))
    omega
  rcases List.length_eq_one_iff.mp hlength with ⟨v, rfl⟩
  exact ⟨v, hcheck, (hdetails v List.mem_cons_self).2⟩

end CodeAudit.Syntax
