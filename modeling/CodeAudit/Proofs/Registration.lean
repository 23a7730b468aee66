import CodeAudit.Proofs.LetterCase
import CodeAudit.Proofs.Table
import CodeAudit.Registry
import Mathlib.Data.List.Induction

/-!
This module contains what a registry holds after any number of registrations. For each name of a language and
each ending of files the latest registration counts, and what a file is read with is found through both.
-/

namespace CodeAudit

namespace Registry

/--
A call that registers a front end.
-/
structure Registration where
  language : String
  frontEnd : FrontEnd
  extensions : Value

namespace Registration

/--
The name under which the front end is found.
-/
def name (c : Registration) : String :=
  Unicode.lower c.language

/--
The texts that come before the first value that is no text.
-/
def leadingTexts : List Value → List String
  | .text s :: vs => s :: leadingTexts vs
  | _ => []

/--
The endings of files that come to stand for the language.
-/
def endings (c : Registration) : List String :=
  match c.extensions.members with
  | .ok vs => (leadingTexts vs).map Unicode.lower
  | .error _ => []

end Registration

/--
The registry after a call. A fault leaves what was registered before it.
-/
def perform (r : Registry) (c : Registration) : Registry :=
  (r.register c.language c.frontEnd c.extensions).1

/--
The calls that the standard registry comes from.
-/
def standardCalls : List Registration :=
  [⟨"python", .python, .list [.text ".py"]⟩,
    ⟨"javascript", .script .javaScript, .list [.text ".js", .text ".jsx"]⟩,
    ⟨"typescript", .script .typeScript, .list [.text ".ts", .text ".tsx"]⟩]

theorem foldl_perform_standardCalls : standardCalls.foldl perform ⟨[], []⟩ = standard := by
  have hfrontEnds : (standardCalls.foldl perform ⟨[], []⟩).frontEnds = standard.frontEnds := by decide +kernel
  have hlanguages : (standardCalls.foldl perform ⟨[], []⟩).languages = standard.languages := by decide +kernel
  exact congrArg₂ Registry.mk hfrontEnds hlanguages

/-! ### One call -/

section

variable (r : Registry)

theorem frontEnds_addExtensions (language : String) (vs : List Value)
    : (r.addExtensions language vs).1.frontEnds = r.frontEnds := by
  fun_induction addExtensions r language vs with
  | case1 r => rfl
  | case2 r extension rest ih => exact ih
  | case3 r v rest hnot => rfl

theorem get?_addExtensions (language : String) (vs : List Value) (ending : String)
    : (r.addExtensions language vs).1.languages.get? ending =
        if ending ∈ (Registration.leadingTexts vs).map Unicode.lower then some language
        else r.languages.get? ending := by
  fun_induction addExtensions r language vs with
  | case1 r => rfl
  | case2 r extension rest ih =>
    rw [ih, Table.get?_put, Registration.leadingTexts, List.map_cons]
    by_cases hrest : ending ∈ (Registration.leadingTexts rest).map Unicode.lower
    . rw [if_pos hrest, if_pos (List.mem_cons_of_mem _ hrest)]
    . simp [hrest]
  | case3 r v rest hnot =>
    rw [Registration.leadingTexts]
    . rfl
    . intro s vs h
      exact hnot s (List.cons.inj h).1

theorem mem_addExtensions {language : String} {vs : List Value} {field : String × String}
    (h : field ∈ (r.addExtensions language vs).1.languages) : field ∈ r.languages ∨ field.2 = language := by
  fun_induction addExtensions r language vs with
  | case1 r => exact Or.inl h
  | case2 r extension rest ih =>
    rcases ih h with hmem | hlanguage
    . rcases Table.mem_put hmem with hnew | hold
      . exact Or.inr (congrArg Prod.snd hnew)
      . exact Or.inl hold
    . exact Or.inr hlanguage
  | case3 r v rest hnot => exact Or.inl h

variable (c : Registration)

theorem frontEnds_perform : (r.perform c).frontEnds = r.frontEnds.put c.name c.frontEnd := by
  unfold perform register
  cases c.extensions.members with
  | ok vs => exact frontEnds_addExtensions _ _ vs
  | error m => rfl

theorem get?_languages_perform (ending : String)
    : (r.perform c).languages.get? ending =
        if ending ∈ c.endings then some c.name else r.languages.get? ending := by
  unfold perform register Registration.endings
  cases c.extensions.members with
  | ok vs => exact get?_addExtensions _ _ vs ending
  | error m => rfl

theorem mem_languages_perform {field : String × String} (h : field ∈ (r.perform c).languages)
    : field ∈ r.languages ∨ field.2 = c.name := by
  unfold perform register at h
  cases hmembers : c.extensions.members with
  | ok vs =>
    rw [hmembers] at h
    exact mem_addExtensions { r with frontEnds := r.frontEnds.put c.name c.frontEnd } h
  | error m =>
    rw [hmembers] at h
    exact Or.inl h

end

/-! ### Any number of calls -/

/--
The latest of some calls that have a property.
-/
def Latest (p : Registration → Prop) (calls : List Registration) (c : Registration) : Prop :=
  p c ∧ ∃ earlier later, calls = earlier ++ c :: later ∧ ∀ d ∈ later, ¬ p d

section

variable {p : Registration → Prop} {calls : List Registration} {c d : Registration}

theorem Latest.mem (h : Latest p calls c) : c ∈ calls := by
  rcases h.2 with ⟨earlier, later, rfl, _⟩
  exact List.mem_append_right _ List.mem_cons_self

theorem latest_concat
    : Latest p (calls ++ [d]) c ↔ (p d ∧ c = d) ∨ (¬ p d ∧ Latest p calls c) := by
  constructor
  . rintro ⟨hc, earlier, later, hcalls, hlater⟩
    rcases List.eq_nil_or_concat' later with rfl | ⟨later, e, rfl⟩
    . rcases List.append_inj' hcalls rfl with ⟨_, hd⟩
      cases hd
      exact Or.inl ⟨hc, rfl⟩
    . rw [← List.cons_append, ← List.append_assoc] at hcalls
      rcases List.append_inj' hcalls rfl with ⟨hfront, hd⟩
      cases hd
      rw [List.forall_mem_append, List.forall_mem_singleton] at hlater
      exact Or.inr ⟨hlater.2, hc, earlier, later, hfront, hlater.1⟩
  . rintro (⟨hd, rfl⟩ | ⟨hd, hc, earlier, later, rfl, hlater⟩)
    . exact ⟨hd, calls, [], rfl, List.forall_mem_nil _⟩
    . refine ⟨hc, earlier, later ++ [d], by simp, ?_⟩
      rw [List.forall_mem_append, List.forall_mem_singleton]
      exact ⟨hlater, hd⟩

theorem foldl_perform_eq_some_iff {α : Type} (look : Registry → Option α) {value : Registration → α}
    [DecidablePred p] (hempty : look ⟨[], []⟩ = none)
    (hperform : ∀ r c, look (r.perform c) = if p c then some (value c) else look r) {a : α}
    : look (calls.foldl perform ⟨[], []⟩) = some a ↔ ∃ c, Latest p calls c ∧ value c = a := by
  induction calls using List.reverseRecOn with
  | nil => simp [hempty, Latest]
  | append_singleton calls d ih =>
    rw [List.foldl_concat, hperform]
    by_cases hd : p d
    . simp [hd, latest_concat]
    . simp [hd, latest_concat, ih]

end

/--
The registry after some calls.
-/
def after (calls : List Registration) : Registry :=
  calls.foldl perform standard

section

variable {calls : List Registration}

theorem after_eq : after calls = (standardCalls ++ calls).foldl perform ⟨[], []⟩ := by
  unfold after
  rw [List.foldl_append, foldl_perform_standardCalls]

theorem get?_frontEnds_after {name : String} {f : FrontEnd}
    : (after calls).frontEnds.get? name = some f ↔
        ∃ c, Latest (·.name = name) (standardCalls ++ calls) c ∧ c.frontEnd = f := by
  rw [after_eq]
  apply foldl_perform_eq_some_iff (fun r => r.frontEnds.get? name)
  . rfl
  . intro r c
    rw [frontEnds_perform, Table.get?_put]
    simp only [eq_comm]

theorem get?_languages_after {ending language : String}
    : (after calls).languages.get? ending = some language ↔
        ∃ c, Latest (ending ∈ ·.endings) (standardCalls ++ calls) c ∧ c.name = language := by
  rw [after_eq]
  apply foldl_perform_eq_some_iff (fun r => r.languages.get? ending)
  . rfl
  . intro r c
    exact get?_languages_perform r c ending

theorem languages_after_known : ∀ field ∈ (after calls).languages, field.2 ∈ (after calls).frontEnds.names := by
  rw [after_eq]
  generalize standardCalls ++ calls = history
  induction history using List.reverseRecOn with
  | nil => exact List.forall_mem_nil _
  | append_singleton history c ih =>
    intro field hfield
    rw [List.foldl_concat] at hfield ⊢
    rw [frontEnds_perform, Table.mem_names_put]
    rcases mem_languages_perform _ c hfield with hold | hnew
    . exact Or.inr (ih field hold)
    . exact Or.inl hnew

/--
The names of the languages in a registry are not empty, and they are in lower case.
-/
theorem name_of_mem {c : Registration} (hcalls : ∀ c ∈ calls, c.language ≠ "") (hc : c ∈ standardCalls ++ calls)
    : c.name ≠ "" ∧ Unicode.lower c.name = c.name := by
  refine ⟨?_, Unicode.lower_lower c.language⟩
  intro hname
  have hlanguage := Unicode.lower_eq_empty hname
  rcases List.mem_append.mp hc with hstandard | hmem
  . have hall : ∀ c ∈ standardCalls, c.language ≠ "" := by decide
    exact hall c hstandard hlanguage
  . exact hcalls c hmem hlanguage

/--
The ending of a file as it is looked up.
-/
def endingOf (path : String) : String :=
  Unicode.lower (Files.Path.ofString path).suffix

theorem frontEndOf?_after (hcalls : ∀ c ∈ calls, c.language ≠ "") (path : String)
    : (after calls).frontEndOf? path =
        ((after calls).languages.get? (endingOf path)).bind (after calls).frontEnds.get? := by
  have hlanguageOf : (after calls).languageOf? path = (after calls).languages.get? (endingOf path) := rfl
  unfold frontEndOf?
  rw [hlanguageOf]
  cases hget : (after calls).languages.get? (endingOf path) with
  | none => rfl
  | some language =>
    rcases get?_languages_after.mp hget with ⟨c, hlatest, rfl⟩
    rcases name_of_mem hcalls hlatest.mem with ⟨hne, hlower⟩
    dsimp only [Option.bind_some]
    rw [if_neg (by simpa using hne)]
    unfold frontEnd?
    rw [hlower]

theorem frontEndOf?_after_eq_none_iff (hcalls : ∀ c ∈ calls, c.language ≠ "") (path : String)
    : (after calls).frontEndOf? path = none ↔ endingOf path ∉ (after calls).languages.names := by
  rw [frontEndOf?_after hcalls, ← Table.get?_eq_none_iff]
  cases hget : (after calls).languages.get? (endingOf path) with
  | none => simp
  | some language =>
    have hknown := languages_after_known _ (Table.mem_of_get? hget)
    rw [Option.bind_some, Table.get?_eq_none_iff]
    exact iff_of_false (not_not_intro hknown) (Option.some_ne_none _)

theorem frontEndOf?_after_eq_some_iff (hcalls : ∀ c ∈ calls, c.language ≠ "") (path : String) (f : FrontEnd)
    : (after calls).frontEndOf? path = some f ↔
        ∃ mapped, Latest (endingOf path ∈ ·.endings) (standardCalls ++ calls) mapped ∧
          ∃ c, Latest (·.name = mapped.name) (standardCalls ++ calls) c ∧ c.frontEnd = f := by
  rw [frontEndOf?_after hcalls, Option.bind_eq_some_iff]
  constructor
  . rintro ⟨language, hlanguage, hfrontEnd⟩
    rcases get?_languages_after.mp hlanguage with ⟨mapped, hmapped, rfl⟩
    exact ⟨mapped, hmapped, get?_frontEnds_after.mp hfrontEnd⟩
  . rintro ⟨mapped, hmapped, hlatest⟩
    exact ⟨mapped.name, get?_languages_after.mpr ⟨mapped, hmapped, rfl⟩, get?_frontEnds_after.mpr hlatest⟩

end

/--
After any calls with names of languages that are not empty, every language that an ending stands for has a front
end. A file has none exactly if no language stands for its ending, and else it has the front end that was last
registered for the language that was last registered for its ending. Nothing else of the path counts.
-/
theorem frontEndOf?_latest (calls : List Registration) (hcalls : ∀ c ∈ calls, c.language ≠ "")
    : (∀ field ∈ (after calls).languages, field.2 ∈ (after calls).frontEnds.names) ∧
      (∀ path, (after calls).frontEndOf? path = none ↔ endingOf path ∉ (after calls).languages.names) ∧
      (∀ path f, (after calls).frontEndOf? path = some f ↔
        ∃ mapped, Latest (endingOf path ∈ ·.endings) (standardCalls ++ calls) mapped ∧
          ∃ c, Latest (·.name = mapped.name) (standardCalls ++ calls) c ∧ c.frontEnd = f) ∧
      ∀ path path', endingOf path = endingOf path' →
        (after calls).frontEndOf? path = (after calls).frontEndOf? path' := by
  refine ⟨languages_after_known, frontEndOf?_after_eq_none_iff hcalls, frontEndOf?_after_eq_some_iff hcalls, ?_⟩
  intro path path' hending
  rw [frontEndOf?_after hcalls, frontEndOf?_after hcalls, hending]

-- The first call meets a value that is no text, and the second has the same name in another case.
def rubyCalls : List Registration :=
  [⟨"Ruby", .python, .list [.text ".PY", .null, .text ".js"]⟩, ⟨"rubY", .script .typeScript, .list []⟩]

theorem frontEndOf?_latest_rubyCalls
    : (standard.register "Ruby" .python (.list [.text ".PY", .null, .text ".js"])).2.isSome = true ∧
      (∀ c ∈ rubyCalls, c.language ≠ "") ∧
      ((after rubyCalls).frontEndOf? "lib/a.Py" = some (.script .typeScript) ∧
        ∃ mapped, Latest (".py" ∈ ·.endings) (standardCalls ++ rubyCalls) mapped ∧
          ∃ c, Latest (·.name = mapped.name) (standardCalls ++ rubyCalls) c ∧ c.frontEnd = .script .typeScript) ∧
      ((after rubyCalls).frontEndOf? "lib/a.rb" = none ∧ ".rb" ∉ (after rubyCalls).languages.names) := by
  have hcalls : ∀ c ∈ rubyCalls, c.language ≠ "" := by decide
  have hlatest := frontEndOf?_latest rubyCalls hcalls
  have hfound : (after rubyCalls).frontEndOf? "lib/a.Py" = some (.script .typeScript) := by decide +kernel
  have hmissing : (after rubyCalls).frontEndOf? "lib/a.rb" = none := by decide +kernel
  have hpy : endingOf "lib/a.Py" = ".py" := by decide +kernel
  have hrb : endingOf "lib/a.rb" = ".rb" := by decide +kernel
  refine ⟨by decide +kernel, hcalls, ⟨hfound, ?_⟩, hmissing, ?_⟩
  . rw [← hpy]
    exact (hlatest.2.2.1 _ _).mp hfound
  . rw [← hrb]
    exact (hlatest.2.1 _).mp hmissing

end Registry

end CodeAudit
