import CodeAudit.Proofs.Verdict

/-!
This module contains the patterns that stand for the styles of names and for the names that the language gives. A
pattern is met from the start of a text on; its end is the end of the text or a line feed there, and the dot stands for
every character but a line feed. The rules about names report exactly the names that do not meet the pattern of their
style.
-/

namespace CodeAudit

namespace Text

/-! ### Patterns -/

/--
The characters that a pattern allows at one place: a single one, those in some ranges, or all but the line feed.
-/
inductive CharSet where
  | single (c : Char)
  | ranges (bounds : List (Char × Char))
  | any

/--
What a pattern asks for: that the text starts or ends here, a character, or as many characters as there may be.
-/
inductive PatternItem where
  | start
  | stop
  | one (set : CharSet)
  | many (set : CharSet)

def CharSet.Has : CharSet → Char → Prop
  | .single d, c => c = d
  | .ranges bounds, c => ∃ bound ∈ bounds, bound.1 ≤ c ∧ c ≤ bound.2
  | .any, c => c ≠ '\n'

def CharSet.text : CharSet → List Char
  | .single c => [c]
  | .ranges bounds =>
    '[' :: bounds.flatMap (fun bound => if bound.1 = bound.2 then [bound.1] else [bound.1, '-', bound.2]) ++ [']']
  | .any => ['.']

def PatternItem.text : PatternItem → List Char
  | .start => ['^']
  | .stop => ['$']
  | .one set => set.text
  | .many set => set.text ++ ['*']

/--
A pattern as it is written.
-/
def patternText (items : List PatternItem) : String :=
  String.ofList (items.flatMap PatternItem.text)

/--
A text meets a pattern after the characters `before`, with some of those that are left.
-/
inductive Meets : List PatternItem → List Char → List Char → Prop where
  | nil {before rest : List Char} : Meets [] before rest
  | start {items : List PatternItem} {rest : List Char} (h : Meets items [] rest) : Meets (.start :: items) [] rest
  | stop {items : List PatternItem} {before rest : List Char} (hend : rest = [] ∨ rest = ['\n'])
      (h : Meets items before rest) : Meets (.stop :: items) before rest
  | one {items : List PatternItem} {set : CharSet} {before rest : List Char} {c : Char} (hc : set.Has c)
      (h : Meets items (before ++ [c]) rest) : Meets (.one set :: items) before (c :: rest)
  | none {items : List PatternItem} {set : CharSet} {before rest : List Char} (h : Meets items before rest)
      : Meets (.many set :: items) before rest
  | more {items : List PatternItem} {set : CharSet} {before rest : List Char} {c : Char} (hc : set.Has c)
      (h : Meets (.many set :: items) (before ++ [c]) rest) : Meets (.many set :: items) before (c :: rest)

variable {items : List PatternItem} {set : CharSet} {before rest : List Char}

theorem meets_start_iff : Meets (.start :: items) before rest ↔ before = [] ∧ Meets items before rest := by
  constructor
  . intro h
    cases h with
    | start h => exact ⟨rfl, h⟩
  . rintro ⟨rfl, h⟩
    exact .start h

theorem meets_stop_iff : Meets [.stop] before rest ↔ rest = [] ∨ rest = ['\n'] := by
  constructor
  . intro h
    cases h with
    | stop hend _ => exact hend
  . intro hend
    exact .stop hend .nil

theorem meets_one_iff
    : Meets (.one set :: items) before rest ↔
        ∃ c rest', rest = c :: rest' ∧ set.Has c ∧ Meets items (before ++ [c]) rest' := by
  constructor
  . intro h
    cases h with
    | one hc h => exact ⟨_, _, rfl, hc, h⟩
  . rintro ⟨c, rest', rfl, hc, h⟩
    exact .one hc h

theorem meets_many_iff
    : Meets (.many set :: items) before rest ↔
        ∃ run rest', rest = run ++ rest' ∧ (∀ c ∈ run, set.Has c) ∧ Meets items (before ++ run) rest' := by
  constructor
  . intro h
    generalize hall : PatternItem.many set :: items = all at h
    induction h with
    | none h =>
      cases hall
      refine ⟨[], _, rfl, List.forall_mem_nil _, ?_⟩
      rw [List.append_nil]
      exact h
    | @more _ _ _ _ c hc h ih =>
      cases hall
      rcases ih rfl with ⟨run, rest', rfl, hrun, hrest⟩
      refine ⟨c :: run, rest', rfl, List.forall_mem_cons.mpr ⟨hc, hrun⟩, ?_⟩
      rw [List.append_assoc] at hrest
      exact hrest
    | _ => cases hall
  . rintro ⟨run, rest', rfl, hrun, h⟩
    induction run generalizing before with
    | nil =>
      rw [List.append_nil] at h
      exact .none h
    | cons c run ih =>
      rw [List.forall_mem_cons] at hrun
      apply Meets.more hrun.1
      apply ih hrun.2
      rw [List.append_assoc]
      exact h

end Text

namespace Lint

open Text

/-! ### The patterns of names -/

def Style.firstSet : Style → CharSet
  | .snakeCase => .ranges [('a', 'z'), ('_', '_')]
  | .camelCase => .ranges [('a', 'z')]
  | .pascalCase => .ranges [('A', 'Z')]

def Style.nextSet : Style → CharSet
  | .snakeCase => .ranges [('a', 'z'), ('0', '9'), ('_', '_')]
  | _ => .ranges [('a', 'z'), ('A', 'Z'), ('0', '9')]

/--
The pattern of a style.
-/
def Style.items (s : Style) : List PatternItem :=
  [.start, .one s.firstSet, .many s.nextSet, .stop]

/--
The pattern of the names that the language gives.
-/
def reservedItems : List PatternItem :=
  [.start, .one (.single '_'), .one (.single '_'), .many .any, .one (.single '_'), .one (.single '_'), .stop]

theorem Style.pattern_eq (s : Style) : s.pattern = patternText s.items := by
  cases s <;> rfl

theorem between_underscores_iff (c : Char) : ('_' ≤ c ∧ c ≤ '_') ↔ c = '_' := by
  constructor
  . rintro ⟨hlow, hhigh⟩
    exact Char.le_antisymm hhigh hlow
  . rintro rfl
    decide

theorem Style.first_iff_has (s : Style) (c : Char) : s.First c ↔ s.firstSet.Has c := by
  cases s with
  | snakeCase => simp [First, firstSet, CharSet.Has, between_underscores_iff]
  | camelCase => simp [First, firstSet, CharSet.Has]
  | pascalCase => simp [First, firstSet, CharSet.Has]

theorem Style.next_iff_has (s : Style) (c : Char) : s.Next c ↔ s.nextSet.Has c := by
  cases s with
  | snakeCase => simp [Next, nextSet, CharSet.Has, between_underscores_iff]
  | _ =>
    simp only [Next, nextSet, CharSet.Has, List.exists_mem_cons_iff, List.not_mem_nil, false_and, exists_false,
      or_false]
    tauto

theorem or_append_lineFeed_iff {name cs : List Char}
    : (name = cs ∨ name = cs ++ ['\n']) ↔ ∃ rest, name = cs ++ rest ∧ (rest = [] ∨ rest = ['\n']) := by
  simp [and_or_left, exists_or]

theorem Style.fits_iff_meets (s : Style) (name : String) : s.Fits name ↔ Meets s.items [] name.toList := by
  simp only [Fits, items, or_append_lineFeed_iff, first_iff_has, next_iff_has, meets_start_iff, meets_one_iff,
    meets_many_iff, meets_stop_iff, true_and]
  constructor
  . rintro ⟨c, cs, hc, hcs, rest, hname, hend⟩
    exact ⟨c, cs ++ rest, hname, hc, cs, rest, rfl, hcs, hend⟩
  . rintro ⟨c, _, hname, hc, cs, rest, rfl, hcs, hend⟩
    exact ⟨c, cs, hc, hcs, rest, hname, hend⟩

-- The underscores at the end are taken after all that the dot stands for, which may be underscores as well.
theorem reserved_iff_meets (name : String) : Reserved name ↔ Meets reservedItems [] name.toList := by
  simp only [Reserved, reservedItems, CharSet.Has, or_append_lineFeed_iff, meets_start_iff, meets_one_iff,
    meets_many_iff, meets_stop_iff, true_and]
  constructor
  . rintro ⟨inner, hinner, rest, hname, hend⟩
    refine ⟨'_', '_' :: (inner ++ '_' :: '_' :: rest), ?_, rfl, '_', _, rfl, rfl, inner, _, rfl, ?_, '_', _, rfl, rfl,
      '_', rest, rfl, rfl, hend⟩
    . simpa using hname
    . intro c hc hfeed
      exact hinner (hfeed ▸ hc)
  . rintro ⟨_, _, hname, rfl, _, _, rfl, rfl, inner, _, rfl, hinner, _, _, rfl, rfl, _, rest, rfl, rfl, hend⟩
    refine ⟨inner, ?_, rest, ?_, hend⟩
    . intro hfeed
      exact hinner _ hfeed rfl
    . simpa using hname

theorem Style.next_of_first {s : Style} {c : Char} (h : s.First c) : s.Next c := by
  cases s
  all_goals
    simp only [First, Next] at h ⊢
    tauto

theorem Style.ascii_of_next {s : Style} {c : Char} (h : s.Next c) : c.toNat ≤ 0x7f := by
  have hmono : ∀ d : Char, c ≤ d → d.toNat ≤ 0x7f → c.toNat ≤ 0x7f := fun d hd => Nat.le_trans hd
  cases s with
  | snakeCase =>
    rcases h with ⟨_, h⟩ | ⟨_, h⟩ | rfl
    . exact hmono _ h (by decide)
    . exact hmono _ h (by decide)
    . decide
  | _ =>
    rcases h with ⟨_, h⟩ | ⟨_, h⟩ | ⟨_, h⟩
    all_goals exact hmono _ h (by decide)

theorem Style.ascii_of_fits {s : Style} {name : String} (h : s.Fits name) : ∀ c ∈ name.toList, c.toNat ≤ 0x7f := by
  rcases h with ⟨c, cs, hc, hcs, hname⟩
  have hall : ∀ d ∈ c :: cs, d.toNat ≤ 0x7f := by
    intro d hd
    apply ascii_of_next (s := s)
    cases List.mem_cons.mp hd with
    | inl heq => exact heq ▸ next_of_first hc
    | inr hmem => exact hcs d hmem
  intro d hd
  rcases hname with hname | hname
  . rw [hname] at hd
    exact hall d hd
  . rw [hname, List.mem_append] at hd
    rcases hd with hd | hd
    . exact hall d hd
    . rw [List.mem_singleton.mp hd]
      decide

/-! ### The rules about names -/

namespace Rule

variable {r : Rule}

theorem styleOption_of_named {default styleName : String} {s : Style}
    (hdefault : r.spec.defaultOptions.get? "style" = some (.text default))
    (hoption : r.option? "style" = some (.text styleName)) (hstyle : Style.named.get? styleName = some s)
    : styleOption r.options default = .ok (some (styleName, s)) := by
  have hvalue : (r.options.get? "style").getD (.text default) = .text styleName := by
    unfold option? at hoption
    rw [hdefault] at hoption
    exact Option.some.inj hoption
  unfold styleOption
  rw [hvalue]
  simp [Value.lookupText?, orFault, hstyle, bind, Except.bind, pure, Except.pure]

-- Both rules about names are of this form: one exempts the names that the language gives, the other none.
theorem check_names (exempt : List Char → Bool) {kinds : List EntryKind} {default what styleName : String} {s : Style}
    (hinspection : r.spec.inspection = .entries kinds fun options e => do
      match ← styleOption options default with
      | none => return []
      | some (styleName, style) =>
        let name := withoutLineEnd e.name.toList
        return if exempt name || style.accepts name then [] else [nameFinding e what styleName style])
    (hlanguages : r.spec.languages = []) (hoption : styleOption r.options default = .ok (some (styleName, s)))
    {p : Entry → Prop} [DecidablePred p]
    (hp : ∀ e, p e ↔ targets kinds e ∧ ¬ exempt (withoutLineEnd e.name.toList) ∧ ¬ s.Fits e.name) (o : Outline)
    : r.check o = .ok ((o.entries.filter fun e => p e).map fun e =>
        r.report o.path (nameFinding e what styleName s)) := by
  have hfindings := findings_entries (p := fun e => ¬ exempt (withoutLineEnd e.name.toList) ∧ ¬ s.Fits e.name)
    (f := fun e => nameFinding e what styleName s) hinspection hlanguages ?_ o
  . have hfilter : (o.entries.filter (targets kinds)).filter
        (fun e => ¬ exempt (withoutLineEnd e.name.toList) ∧ ¬ s.Fits e.name) = o.entries.filter fun e => p e := by
      rw [List.filter_filter]
      apply List.filter_congr
      intro e _
      simp [hp, Bool.and_comm]
    rw [check_eq_ok hfindings, hfilter, List.map_map]
    rfl
  . intro e
    rw [hoption]
    have hkept : (exempt (withoutLineEnd e.name.toList) || s.accepts (withoutLineEnd e.name.toList)) = true ↔
        ¬ (¬ exempt (withoutLineEnd e.name.toList) ∧ ¬ s.Fits e.name) := by
      rw [Bool.or_eq_true, Style.accepts_withoutLineEnd_iff]
      tauto
    dsimp only [bind, Except.bind, pure, Except.pure]
    rw [if_congr hkept rfl rfl, ite_not]

/--
The rule reports an entry of an outline: the check comes to its end, and a violation says where the entry stands.
-/
def Reports (r : Rule) (o : Outline) (e : Entry) : Prop :=
  ∃ vs, r.check o = .ok vs ∧ ∃ v ∈ vs, v.mark = r.entryMark o.path e

theorem reports_of_check {p : Entry → Prop} [DecidablePred p] {what styleName : String} {s : Style} {o : Outline}
    (h : r.check o = .ok ((o.entries.filter fun e => p e).map fun e =>
      r.report o.path (nameFinding e what styleName s)))
    {e : Entry} (he : e ∈ o.entries) (hp : p e) : r.Reports o e := by
  refine ⟨_, h, _, List.mem_map_of_mem (List.mem_filter.mpr ⟨he, ?_⟩), rfl⟩
  simpa using hp

/--
With a known style, the rule about functions reports the functions and methods whose names neither are given by the
language nor fit the style, and the rule about classes reports the classes whose names do not fit it. A name fits a style
exactly if it meets the pattern that is reported for the style, and the names that the language gives have such a pattern
as well. So all names with a character beyond ASCII are reported, but for functions whose names the language gives.
-/
theorem check_decides_names {r : Rule} {styleName : String} {s : Style}
    (hoption : r.option? "style" = some (.text styleName)) (hstyle : Style.named.get? styleName = some s) (o : Outline)
    : (r.spec = functionNaming → r.check o = .ok
        ((o.entries.filter fun e => e.IsFunction ∧ ¬ Reserved e.name ∧ ¬ s.Fits e.name).map fun e =>
          r.report o.path (nameFinding e "函数" styleName s))) ∧
      (r.spec = classNaming → r.check o = .ok
        ((o.entries.filter fun e => e.kind = .class_ ∧ ¬ s.Fits e.name).map fun e =>
          r.report o.path (nameFinding e "类" styleName s))) ∧
      (s.pattern = patternText s.items ∧ ∀ name : String, s.Fits name ↔ Meets s.items [] name.toList) ∧
      (patternText reservedItems = "^__.*__$" ∧ ∀ name : String, Reserved name ↔ Meets reservedItems [] name.toList) ∧
      ∀ e ∈ o.entries, (∃ c ∈ e.name.toList, 0x7f < c.toNat) →
        (r.spec = functionNaming → e.IsFunction → ¬ Reserved e.name → r.Reports o e) ∧
        (r.spec = classNaming → e.kind = .class_ → r.Reports o e) := by
  have hfunctions : r.spec = functionNaming → r.check o = .ok
      ((o.entries.filter fun e => e.IsFunction ∧ ¬ Reserved e.name ∧ ¬ s.Fits e.name).map fun e =>
        r.report o.path (nameFinding e "函数" styleName s)) := by
    intro hspec
    have hdefault : r.spec.defaultOptions.get? "style" = some (.text "snake_case") := by
      rw [hspec]
      rfl
    apply check_names isReserved (by rw [hspec]; rfl) (by rw [hspec]; rfl)
      (styleOption_of_named hdefault hoption hstyle)
    intro e
    rw [targets_functionKinds, isReserved_withoutLineEnd_iff]
  have hclasses : r.spec = classNaming → r.check o = .ok
      ((o.entries.filter fun e => e.kind = .class_ ∧ ¬ s.Fits e.name).map fun e =>
        r.report o.path (nameFinding e "类" styleName s)) := by
    intro hspec
    have hdefault : r.spec.defaultOptions.get? "style" = some (.text "PascalCase") := by
      rw [hspec]
      rfl
    apply check_names (fun _ => false) (by rw [hspec]; rfl) (by rw [hspec]; rfl)
      (styleOption_of_named hdefault hoption hstyle)
    intro e
    simp [targets]
  refine ⟨hfunctions, hclasses, ⟨s.pattern_eq, s.fits_iff_meets⟩, ⟨rfl, reserved_iff_meets⟩, ?_⟩
  rintro e he ⟨c, hc, hbeyond⟩
  have hfits : ¬ s.Fits e.name := by
    intro hfits
    have hascii := Style.ascii_of_fits hfits c hc
    omega
  constructor
  . intro hspec hkind hreserved
    exact reports_of_check (hfunctions hspec) he ⟨hkind, hreserved, hfits⟩
  . intro hspec hkind
    exact reports_of_check (hclasses hspec) he ⟨hkind, hfits⟩

/--
An outline with names that are too short to be given by the language, names that end in a line feed or have one in them,
and names with characters beyond ASCII.
-/
def trapOutline : Outline where
  path := "traps.py"
  language := "python"
  entries :=
    ["__", "___", "____", "fooBar\n", "naïve", "__é__", "__a\n__", "__init__\n", "get\n\n"].map (fun name =>
      { kind := .function, name, firstLine := 1, lastLine := 1 }) ++
    ["__Box__", "Box\n", "Café"].map (fun name => { kind := .class_, name, firstLine := 2, lastLine := 2 })

theorem check_decides_names_trapOutline
    : let functions : Rule := ⟨functionNaming, .warn, [("style", .text "camelCase")]⟩
      let classes : Rule := ⟨classNaming, .error, []⟩
      functions.option? "style" = some (.text "camelCase") ∧ classes.option? "style" = some (.text "PascalCase") ∧
      (∃ vs, functions.check trapOutline = .ok vs ∧ vs.map (fun v => v.entryName) =
        [some "__", some "___", some "naïve", some "__a\n__", some "get\n\n"]) ∧
      ∃ vs, classes.check trapOutline = .ok vs ∧ vs.map (fun v => v.entryName) = [some "__Box__", some "Café"] := by
  intro functions classes
  have hfunctions : functions.option? "style" = some (.text "camelCase") := rfl
  have hclasses : classes.option? "style" = some (.text "PascalCase") := rfl
  refine ⟨hfunctions, hclasses, ⟨_, (check_decides_names hfunctions rfl trapOutline).1 rfl, ?_⟩, _,
    (check_decides_names hclasses rfl trapOutline).2.1 rfl, ?_⟩
  . decide +kernel
  . decide +kernel

end Rule

end Lint

end CodeAudit
