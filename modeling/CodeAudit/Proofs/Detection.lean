import CodeAudit.Assist.Analyzer
import CodeAudit.Proofs.Fault
import CodeAudit.Proofs.Registration

/-!
This module contains which language an analyzer takes code for if it is not told. A registry holds endings in lower case
only and looks them up in lower case, while the analyzer looks them up as they are written, so that the two part where
an ending has a capital.
-/

namespace CodeAudit

/-! ### Endings in a registry -/

namespace Registry

variable {calls : List Registration} {ending language : String}

theorem Registration.lower_of_mem_endings {c : Registration} (h : ending ∈ c.endings)
    : Unicode.lower ending = ending := by
  unfold endings at h
  split at h
  . rcases List.mem_map.mp h with ⟨text, _, rfl⟩
    exact Unicode.lower_lower text
  . cases h

theorem lower_of_languages_after (h : (after calls).languages.get? ending = some language)
    : Unicode.lower ending = ending := by
  rcases get?_languages_after.mp h with ⟨c, hlatest, _⟩
  exact Registration.lower_of_mem_endings hlatest.1

/--
An ending as it is written stands for the language that it stands for in lower case, or for none.
-/
theorem languages_after_as_written (h : (after calls).languages.get? (Unicode.lower ending) = some language)
    : (after calls).languages.get? ending = if Unicode.lower ending = ending then some language else none := by
  split
  . next hlower =>
    rw [hlower] at h
    exact h
  . next hlower =>
    rw [Option.eq_none_iff_forall_ne_some]
    intro other hother
    exact hlower (lower_of_languages_after hother)

end Registry

/-! ### The language of code -/

namespace Assist.Analyzer

variable {a : Analyzer} {calls : List Registry.Registration} {path language : String}

theorem detectLanguage_eq (ha : a.registry = Registry.after calls) (hpath : path ≠ "")
    (h : a.registry.languageOf? path = some language)
    : a.detectLanguage path =
        let ending := (Files.Path.ofString path).suffix
        if Unicode.lower ending = ending then language else "python" := by
  rw [ha] at h
  have hwritten := Registry.languages_after_as_written h
  unfold detectLanguage
  rw [if_neg (by simpa using hpath), ha, hwritten]
  dsimp only
  split
  . rfl
  . rfl

theorem material_language {code : List Char} {m : Material} (h : a.material code path language = .ok m)
    : m.language = .text language := by
  rcases bind_eq_ok_iff.mp h with ⟨result, _, h⟩
  rcases bind_eq_ok_iff.mp h with ⟨lint, _, h⟩
  rcases bind_eq_ok_iff.mp h with ⟨complexity, _, h⟩
  cases h
  rfl

theorem frontEnd?_of_languageOf? {r : Registry} (h : r.languageOf? path = some language) (hne : language ≠ "")
    : r.frontEnd? language = r.frontEndOf? path := by
  unfold Registry.frontEndOf?
  rw [h]
  dsimp only
  rw [if_neg (by simpa using hne)]

/--
Where a registry has a language for a path, an analyzer that is not told takes the code for that language if the ending
of the path is in lower case, and for Python if it is not. So it agrees with the registry exactly if the ending is in
lower case or the language is Python. What it takes the code for is the language in which it reads the code and which
it names in the question, and where it agrees it reads the code with what the registry has for the path.
-/
theorem detectLanguage_agrees_iff (a : Analyzer) (calls : List Registry.Registration)
    (ha : a.registry = Registry.after calls) (path language : String) (hpath : path ≠ "")
    (h : a.registry.languageOf? path = some language)
    : let ending := (Files.Path.ofString path).suffix
      let taken := a.detectLanguage path
      taken = (if Unicode.lower ending = ending then language else "python") ∧
      (taken = language ↔ Unicode.lower ending = ending ∨ language = "python") ∧
      (∀ kind code, a.analyze kind code path none = a.analyze kind code path (some taken)) ∧
      (∀ code m, a.material code path taken = .ok m → m.language = .text taken) ∧
      (taken = language → language ≠ "" → a.registry.frontEnd? taken = a.registry.frontEndOf? path) := by
  intro ending taken
  have htaken : taken = if Unicode.lower ending = ending then language else "python" := detectLanguage_eq ha hpath h
  refine ⟨htaken, ?_, fun kind code => rfl, fun code m hm => material_language hm, ?_⟩
  . rw [htaken]
    split
    . next hlower => simp [hlower]
    . next hlower => simp [hlower, eq_comm]
  . intro hagrees hne
    rw [hagrees]
    exact frontEnd?_of_languageOf? h hne

-- An analyzer that knows one more language, under an ending that was given in capitals.
def rubyCall : Registry.Registration :=
  ⟨"Ruby", .python, .list [.text ".RB"]⟩

def rubyAnalyzer : Analyzer :=
  { make (.make none .null) .bare with registry := Registry.after [rubyCall] }

theorem detectLanguage_agrees_iff_rubyAnalyzer
    : rubyAnalyzer.registry.languageOf? "lib/tool.rb" = some "ruby" ∧
      rubyAnalyzer.detectLanguage "lib/tool.rb" = "ruby" ∧
      rubyAnalyzer.registry.frontEnd? "ruby" = rubyAnalyzer.registry.frontEndOf? "lib/tool.rb" ∧
      rubyAnalyzer.registry.languageOf? "lib/tool.Rb" = some "ruby" ∧
      rubyAnalyzer.detectLanguage "lib/tool.Rb" = "python" := by
  have hlower : rubyAnalyzer.registry.languageOf? "lib/tool.rb" = some "ruby" := by decide +kernel
  have hmixed : rubyAnalyzer.registry.languageOf? "lib/tool.Rb" = some "ruby" := by decide +kernel
  let ending (path : String) : String := (Files.Path.ofString path).suffix
  have hending : Unicode.lower (ending "lib/tool.rb") = ending "lib/tool.rb" := by decide +kernel
  have hending' : Unicode.lower (ending "lib/tool.Rb") ≠ ending "lib/tool.Rb" := by decide +kernel
  rcases detectLanguage_agrees_iff rubyAnalyzer [rubyCall] rfl _ _ (by decide) hlower with ⟨_, hiff, _, _, hfrontEnd⟩
  rcases detectLanguage_agrees_iff rubyAnalyzer [rubyCall] rfl _ _ (by decide) hmixed with ⟨htaken, _⟩
  have hagrees := hiff.mpr (Or.inl hending)
  refine ⟨hlower, hagrees, ?_, hmixed, ?_⟩
  . rw [← hfrontEnd hagrees (by decide), hagrees]
  . rw [htaken, if_neg hending']

/--
The ending in capitals stands for JavaScript, and the code is read as Python.
-/
theorem detectLanguage_misses_capitals
    : let a := make (.make none .null) .bare
      a.registry.languageOf? "app.JS" = some "javascript" ∧
        a.registry.frontEndOf? "app.JS" = some (.script .javaScript) ∧
        a.detectLanguage "app.JS" = "python" ∧
        (a.outline "x = 1\n".toList "app.JS" (a.detectLanguage "app.JS")).problems = [] ∧
        (a.outline "x = 1\n".toList "app.JS" "javascript").problems =
          [(CodeAudit.Fault.noParser .javaScript).message] := by
  decide +kernel

end Assist.Analyzer

end CodeAudit
