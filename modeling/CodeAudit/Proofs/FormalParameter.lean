import CodeAudit.Proofs.Definition

/-!
This module contains which parameters of a function in a script are listed: those that are an identifier, an
identifier with a default, or a parameter with a type and an identifier in it. The other parameters are left out
without a trace.
-/

namespace CodeAudit.Script

/--
The kinds of nodes that are parameters of a function.
-/
def formalKinds : List String :=
  ["identifier", "assignment_pattern", "rest_pattern", "object_pattern", "array_pattern", "required_parameter",
    "optional_parameter"]

/--
The parameters of a function, without the marks between them.
-/
def formals (t : Tree) : List Tree :=
  ((t.child? "parameters").elim [] Tree.children).filter fun c => formalKinds.contains c.kind

/--
The node gives the name of the parameter.
-/
inductive NamedBy : Tree → Tree → Prop where
  | plain {formal : Tree} : formal.kind = "identifier" → NamedBy formal formal
  | default {formal name : Tree} : formal.kind = "assignment_pattern" → formal.child? "left" = some name →
      name.kind = "identifier" → NamedBy formal name
  | typed {formal name : Tree} : formal.kind = "required_parameter" →
      formal.childOfKind? ["identifier"] = some name → NamedBy formal name

theorem paramNode?_eq_some_iff {formal name : Tree} : paramNode? formal = some name ↔ NamedBy formal name := by
  constructor
  . intro h
    unfold paramNode? at h
    split at h
    . next hkind =>
      cases h
      exact .plain hkind
    . next hkind =>
      rw [Option.filter_eq_some_iff] at h
      exact .default hkind h.1 (by simpa using h.2)
    . next hkind => exact .typed hkind h
    . cases h
  . intro h
    unfold paramNode?
    cases h with
    | plain hkind =>
      rw [hkind]
      rfl
    | default hkind hleft hname =>
      rw [hkind]
      simp [hleft, hname]
    | typed hkind hname =>
      rw [hkind]
      exact hname

/--
Some node gives the name of the parameter.
-/
def Named (formal : Tree) : Prop :=
  ∃ name, NamedBy formal name

theorem named_iff (formal : Tree) : Named formal ↔ (paramNode? formal).isSome = true := by
  simp [Named, ← paramNode?_eq_some_iff, Option.isSome_iff_exists]

instance : DecidablePred Named := fun formal => decidable_of_iff _ (named_iff formal).symm

theorem kind_of_named {formal : Tree} (h : Named formal) : formalKinds.contains formal.kind = true := by
  rcases h with ⟨name, hname⟩
  cases hname with
  | plain hkind => rw [hkind]; decide
  | default hkind _ _ => rw [hkind]; decide
  | typed hkind _ => rw [hkind]; decide

theorem named_cases (formal : Tree)
    : Named formal ↔
        formal.kind = "identifier" ∨
        (formal.kind = "assignment_pattern" ∧ ∃ left ∈ formal.child? "left", left.kind = "identifier") ∨
        (formal.kind = "required_parameter" ∧ ∃ c ∈ formal.children, c.kind = "identifier") := by
  have htyped : (∃ name, formal.childOfKind? ["identifier"] = some name) ↔
      ∃ c ∈ formal.children, c.kind = "identifier" := by
    unfold Tree.childOfKind?
    rw [← Option.isSome_iff_exists, List.find?_isSome]
    simp
  rw [← htyped]
  constructor
  . rintro ⟨name, hname⟩
    cases hname with
    | plain hkind => exact Or.inl hkind
    | default hkind hleft hname => exact Or.inr (Or.inl ⟨hkind, name, hleft, hname⟩)
    | typed hkind hname => exact Or.inr (Or.inr ⟨hkind, name, hname⟩)
  . rintro (hkind | ⟨hkind, left, hleft, hname⟩ | ⟨hkind, name, hname⟩)
    . exact ⟨formal, .plain hkind⟩
    . exact ⟨left, .default hkind hleft hname⟩
    . exact ⟨name, .typed hkind hname⟩

theorem not_named_iff {formal : Tree} (h : formal.kind ∈ formalKinds)
    : ¬ Named formal ↔
        formal.kind ∈ ["rest_pattern", "object_pattern", "array_pattern", "optional_parameter"] ∨
        (formal.kind = "assignment_pattern" ∧ ∀ left ∈ formal.child? "left", left.kind ≠ "identifier") ∨
        (formal.kind = "required_parameter" ∧ ∀ c ∈ formal.children, c.kind ≠ "identifier") := by
  rw [named_cases]
  simp only [formalKinds, List.mem_cons, List.not_mem_nil, or_false] at h
  rcases h with h | h | h | h | h | h | h
  all_goals simp [h]

theorem paramNames_eq_formals (code : List Char) (t : Tree)
    : paramNames code t = ((formals t).filterMap paramNode?).map (nodeText code) := by
  rw [paramNames_eq, formals, List.filterMap_filter]
  congr 1
  apply List.filterMap_congr
  intro c _
  split
  . rfl
  . next hkind =>
    rw [← Option.not_isSome_iff_eq_none, ← named_iff]
    exact mt kind_of_named hkind

/--
The names are those of the parameters that are named, in order, and they are as many as the parameters exactly if all
of these are named.
-/
def ListsNamed (code : List Char) (t : Tree) (names : List String) : Prop :=
  List.Forall₂ (fun formal s => ∃ name, NamedBy formal name ∧ s = nodeText code name)
      ((formals t).filter fun formal => Named formal) names ∧
    (names.length = (formals t).length ↔ ∀ formal ∈ formals t, Named formal)

theorem paramNames_listsNamed (code : List Char) (t : Tree) : ListsNamed code t (paramNames code t) := by
  rw [paramNames_eq_formals]
  constructor
  . rw [List.forall₂_map_right_iff]
    simp only [named_iff, Bool.decide_eq_true]
    apply (forall₂_filterMap paramNode? (formals t)).imp
    intro formal name hname
    exact ⟨name, paramNode?_eq_some_iff.mp hname, rfl⟩
  . rw [List.length_map, List.filterMap_length_eq_length]
    simp only [named_iff]

theorem params_of_takesNames {code : List Char} {node : Tree} {e : Entry} (h : TakesNames code node e)
    (hkind : node.kind = "function_declaration" ∨ node.kind = "method_definition")
    : e.params = paramNames code node := by
  rcases h with ⟨_, _, _, hparams⟩
  rw [hparams, paramNames_eq]
  unfold paramNodes
  rcases hkind with hkind | hkind
  . rw [hkind]
    rfl
  . rw [hkind]
    rfl

/--
Of the parameters of a function, those that are named are listed, in order, and no others. So there is one name for
each parameter exactly if all are named, and the outline of a script has these names for each function and method. A
parameter is not named if it is a pattern, optional or for all further arguments, or if it has a default
or a type but no identifier.
-/
theorem paramNames_of_formals (code : List Char)
    : (∀ t, ListsNamed code t (paramNames code t)) ∧
      (∀ language path p root, p.root = some root →
        List.Forall₂ (fun node e => node.kind = "function_declaration" ∨ node.kind = "method_definition" →
          e.params = paramNames code node) (definitions root) (outline language code path p).entries) ∧
      ∀ formal : Tree, formal.kind ∈ formalKinds →
        (¬ Named formal ↔
          formal.kind ∈ ["rest_pattern", "object_pattern", "array_pattern", "optional_parameter"] ∨
          (formal.kind = "assignment_pattern" ∧ ∀ left ∈ formal.child? "left", left.kind ≠ "identifier") ∨
          (formal.kind = "required_parameter" ∧ ∀ c ∈ formal.children, c.kind ≠ "identifier")) := by
  refine ⟨paramNames_listsNamed code, ?_, fun formal h => not_named_iff h⟩
  intro language path p root hroot
  unfold outline
  rw [hroot]
  apply (entries_of_definitions code root).imp
  intro node e h hkind
  exact params_of_takesNames h hkind

/--
A function with the parameters in `inner`, between brackets that end at the given place.
-/
def formalTree (inner : List Tree) (stop : Nat) : Tree :=
  .node "function_declaration" 0 (stop + 3) 0 0 none
    [.node "function" 0 8 0 0 none [], .node "identifier" 9 10 0 0 (some "name") [],
      .node "formal_parameters" 10 stop 0 0 (some "parameters")
        (.node "(" 10 11 0 0 none [] :: inner ++ [.node ")" (stop - 1) stop 0 0 none []]),
      .node "statement_block" (stop + 1) (stop + 3) 0 0 (some "body") []]

-- A parameter and another one with a default.
def defaultedCode : List Char := "function f(a, b = 1) \x7b\x7d".toList

def defaultedTree : Tree :=
  formalTree
    [.node "identifier" 11 12 0 0 none [], .node "," 12 13 0 0 none [],
      .node "assignment_pattern" 14 19 0 0 none
        [.node "identifier" 14 15 0 0 (some "left") [], .node "=" 16 17 0 0 none [],
          .node "number" 18 19 0 0 (some "right") []]] 20

theorem paramNames_of_formals_defaultedCode
    : (∀ formal ∈ formals defaultedTree, Named formal) ∧ (formals defaultedTree).length = 2 ∧
      (paramNames defaultedCode defaultedTree).length = 2 ∧
      (∃ e, (outline .javaScript defaultedCode "f.js" { root := some defaultedTree }).entries = [e] ∧
        e.params = ["a", "b"]) ∧
      "rest_pattern" ∈ formalKinds ∧ ¬ Named (.node "rest_pattern" 11 15 0 0 none []) := by
  rcases paramNames_of_formals defaultedCode with ⟨hlists, hentries, hnamed⟩
  have hall : ∀ formal ∈ formals defaultedTree, Named formal := by decide +kernel
  have hkind : "rest_pattern" ∈ formalKinds := by decide
  refine ⟨hall, by decide +kernel, (hlists defaultedTree).2.mpr hall, ?_, hkind, ?_⟩
  . have hone := hentries .javaScript "f.js" { root := some defaultedTree } defaultedTree rfl
    have hdefinitions : definitions defaultedTree = [defaultedTree] := rfl
    rw [hdefinitions, List.forall₂_cons_left_iff] at hone
    rcases hone with ⟨e, rest, hparams, hrest, heq⟩
    rw [List.forall₂_nil_left_iff.mp hrest] at heq
    refine ⟨e, heq, (hparams (Or.inl rfl)).trans ?_⟩
    decide +kernel
  . rw [hnamed (.node "rest_pattern" 11 15 0 0 none []) hkind]
    exact Or.inl (by decide)

-- A parameter with a type and another one that is optional.
def typedScript : List Char := "function f(a: T, b?: T) \x7b\x7d".toList

def typedTree : Tree :=
  formalTree
    [.node "required_parameter" 11 15 0 0 none
        [.node "identifier" 11 12 0 0 (some "pattern") [], .node "type_annotation" 12 15 0 0 (some "type") []],
      .node "," 15 16 0 0 none [],
      .node "optional_parameter" 17 22 0 0 none
        [.node "identifier" 17 18 0 0 (some "pattern") [], .node "?" 18 19 0 0 none [],
          .node "type_annotation" 19 22 0 0 (some "type") []]] 23

/--
The function has two parameters, and only the name of the first is listed.
-/
theorem paramNames_misses_typedTree
    : (formals typedTree).map (nodeText typedScript) = ["a: T", "b?: T"] ∧
      paramNames typedScript typedTree = ["a"] := by
  decide +kernel

end CodeAudit.Script
