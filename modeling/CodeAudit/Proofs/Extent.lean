import CodeAudit.Proofs.Fault
import CodeAudit.Proofs.TokenLines
import CodeAudit.Syntax.File
import Mathlib.Data.Option.Basic

/-!
This module contains on which lines the definitions of a module stand: from a first line to one that is not
before it, and all within the lines of the text.
-/

namespace CodeAudit

namespace Syntax

/-! ### Places -/

namespace Cursor

/--
A place behind the line `low`, in tokens that stand on lines up to `last`.
-/
structure Within (low last : Nat) (c : Cursor) : Prop where
  low_le : low ≤ c.lastLine
  le_last : c.lastLine ≤ last
  lined : ∃ first, 1 ≤ first ∧ c.lastLine ≤ first ∧ Lined last first c.tokens

variable {low last : Nat} {c c' : Cursor} {t : Token} {rest : List Token}

theorem Within.past (h : c.Within low last) (htokens : c.tokens = t :: rest)
    : (c.past t rest).Within low last := by
  rcases h with ⟨hlow, hlast, first, hone, hfirst, hlined⟩
  rw [htokens] at hlined
  cases hlined with
  | cons hline hend hvisible hrest =>
    unfold Cursor.past
    split
    . next hkind => exact ⟨by dsimp only; omega, hvisible hkind, t.endLine, by omega, Nat.le_refl _, hrest⟩
    . exact ⟨hlow, hlast, t.endLine, by omega, by dsimp only; omega, hrest⟩

theorem Within.reaches (h : c.Within low last) (hreaches : c.Reaches c') : c'.Within low last := by
  induction hreaches with
  | here c => exact h
  | past htokens _ ih => exact ih (h.past htokens)

theorem Within.past_visible (h : c.Within low last) (htokens : c.tokens = t :: rest)
    (hkind : t.kind.isVisible = true) : 1 ≤ c.line ∧ (c.past t rest).Within c.line last := by
  have hline : c.line = t.line := by
    unfold line
    rw [htokens]
    exact if_pos hkind
  have hpast := h.past htokens
  rcases h with ⟨hlow, hlast, first, hone, hfirst, hlined⟩
  rw [htokens] at hlined
  rw [hline]
  cases hlined with
  | cons hstart hend hvisible hrest =>
    refine ⟨by omega, ?_, hpast.le_last, hpast.lined⟩
    unfold Cursor.past
    rw [if_pos hkind]
    exact hend

end Cursor

/-! ### What parsers give -/

namespace Parser

variable {α β : Type} {low last : Nat} {P : α → Prop} {Q : β → Prop}

theorem run_bind {p : Parser α} {f : α → Parser β} {c c' : Cursor} {b : β}
    : (p >>= f).run c = some (b, c') ↔
        ∃ a c₁, p.run c = some (a, c₁) ∧ (f a).run c₁ = some (b, c') := by
  change (p.andThen f).run c = _ ↔ _
  unfold andThen
  dsimp only
  cases p.run c with
  | none => simp
  | some result =>
    rcases result with ⟨a, c₁⟩
    simp

/--
What the parser gives satisfies `P`, wherever it starts behind the line `low` in tokens on lines up to `last`.
-/
def Gives (low last : Nat) (p : Parser α) (P : α → Prop) : Prop :=
  ∀ ⦃c c' : Cursor⦄ ⦃a : α⦄, c.Within low last → p.run c = some (a, c') → P a

theorem gives_pure {a : α} (h : P a) : Gives low last (pure a) P := by
  intro c c' b _ hrun
  cases hrun
  exact h

theorem gives_failure : Gives low last (failure : Parser α) P := by
  intro c c' a _ hrun
  cases hrun

theorem gives_bind {p : Parser α} {f : α → Parser β} (hp : Gives low last p P)
    (hf : ∀ a, P a → Gives low last (f a) Q) : Gives low last (p >>= f) Q := by
  intro c c' b hc hrun
  rcases run_bind.mp hrun with ⟨a, c₁, ha, hb⟩
  exact hf a (hp hc ha) (hc.reaches (p.reaches ha)) hb

theorem gives_of_bind {p : Parser α} {f : α → Parser β} (hf : ∀ a, Gives low last (f a) Q)
    : Gives low last (p >>= f) Q :=
  gives_bind (fun _ _ _ _ _ => trivial) fun a (_ : True) => hf a

theorem gives_orElse {p q : Parser α} (hp : Gives low last p P) (hq : Gives low last q P)
    : Gives low last (p <|> q) P := by
  intro c c' a hc hrun
  change (p.orElse fun _ => q).run c = _ at hrun
  unfold orElse at hrun
  dsimp only at hrun
  split at hrun
  . exact hq hc hrun
  . next result hresult =>
    rw [hrun] at hresult
    exact hp hc hresult

theorem gives_inRounds {p : Nat → Parser α} (h : ∀ rounds, Gives low last (p rounds) P)
    : Gives low last (inRounds p) P := by
  intro c c' a hc hrun
  exact h _ hc hrun

theorem gives_lastLine : Gives low last lastLine fun line => low ≤ line ∧ line ≤ last := by
  intro c c' line hc hrun
  cases hrun
  exact ⟨hc.low_le, hc.le_last⟩

theorem accept?_run {p : Token.Kind → Bool} {c c' : Cursor} {b : Bool} (h : (accept? p).run c = some (b, c'))
    : (b = false ∧ c' = c) ∨
      (b = true ∧ ∃ t rest, c.tokens = t :: rest ∧ p t.kind = true ∧ c' = c.past t rest) := by
  unfold accept? at h
  rcases run_bind.mp h with ⟨kind, c₁, hkind, h⟩
  cases hkind
  split at h
  . next hp =>
    rcases run_bind.mp h with ⟨kind, c₂, hnext, h⟩
    cases h
    unfold next at hnext
    dsimp only at hnext
    split at hnext
    . cases hnext
    . next t rest htokens =>
      cases hnext
      dsimp only at hp
      rw [htokens] at hp
      exact Or.inr ⟨rfl, t, rest, htokens, hp, rfl⟩
  . cases h
    exact Or.inl ⟨rfl, rfl⟩

/--
Behind a keyword the line on which it stands is behind as well.
-/
theorem keyword?_run {word : String} {c c' : Cursor} {b : Bool} (hc : c.Within low last)
    (h : (keyword? word).run c = some (b, c'))
    : (b = false ∧ c' = c) ∨ (b = true ∧ 1 ≤ c.line ∧ c'.Within c.line last) := by
  rcases accept?_run h with hnone | ⟨hb, t, rest, htokens, hkind, hc'⟩
  . exact Or.inl hnone
  . have hvisible : t.kind.isVisible = true := by
      unfold Token.Kind.isKeyword at hkind
      split at hkind
      . next heq =>
        rw [heq]
        rfl
      . cases hkind
    rw [hc']
    exact Or.inr ⟨hb, hc.past_visible htokens hvisible⟩

theorem keyword_run {word : String} {c c' : Cursor} (hc : c.Within low last)
    (h : (keyword word).run c = some ((), c')) : 1 ≤ c.line ∧ c'.Within c.line last := by
  unfold keyword at h
  rcases run_bind.mp h with ⟨b, c₁, hword, h⟩
  rcases keyword?_run hc hword with ⟨hb, _⟩ | ⟨hb, hline⟩
  . rw [hb] at h
    cases h
  . rw [hb] at h
    cases h
    exact hline

theorem gives_whileMore {more : Parser Bool} {p : Parser α} (hp : Gives low last p P)
    : Gives low last (whileMore more p) fun as => ∀ a ∈ as, P a := by
  refine gives_inRounds fun rounds => ?_
  induction rounds with
  | zero => exact gives_failure
  | succ rounds ih =>
    unfold whileMore.go
    refine gives_of_bind fun isMore => ?_
    split
    . refine gives_bind hp fun a ha => ?_
      refine gives_bind ih fun as has => ?_
      exact gives_pure (List.forall_mem_cons.mpr ⟨ha, has⟩)
    . exact gives_pure (by simp)

theorem gives_many1 {p : Parser α} (hp : Gives low last p P)
    : Gives low last (many1 p) fun as => ∀ a ∈ as, P a := by
  have hgo : ∀ rounds, Gives low last (many1.go p rounds) fun as => ∀ a ∈ as, P a := by
    intro rounds
    induction rounds with
    | zero => exact gives_pure (by simp)
    | succ rounds ih =>
      have hfound : Gives low last ((some <$> p) <|> pure none) fun a? => ∀ a ∈ a?, P a := by
        refine gives_orElse (gives_bind hp fun a ha => gives_pure ?_) (gives_pure (by simp))
        simpa using ha
      unfold many1.go
      refine gives_bind hfound fun a? ha? => ?_
      split
      . exact gives_pure (by simp)
      . next a =>
        refine gives_bind ih fun as has => ?_
        exact gives_pure (List.forall_mem_cons.mpr ⟨ha? a rfl, has⟩)
  unfold many1
  refine gives_bind hp fun a ha => ?_
  refine gives_bind (gives_inRounds hgo) fun as has => ?_
  exact gives_pure (List.forall_mem_cons.mpr ⟨ha, has⟩)

end Parser

/-! ### Statements -/

/--
From a line to one that is not before it, within the lines from one to `last`.
-/
def Span.Within (last : Nat) (s : Span) : Prop :=
  1 ≤ s.first ∧ s.first ≤ s.last ∧ s.last ≤ last

/--
The statements of a block.
-/
def Block.body : Block → List Stmt
  | .block _ _ body => body

/--
All definitions in a statement, however deep they are nested, stand on lines up to `last`.
-/
inductive Stmt.Within (last : Nat) : Stmt → Prop where
  | functionDef {head : FunctionHead} {body : List Stmt} (hspan : head.span.Within last)
      (hbody : ∀ s ∈ body, s.Within last) : Within last (.functionDef head body)
  | classDef {head : ClassHead} {body : List Stmt} (hspan : head.span.Within last)
      (hbody : ∀ s ∈ body, s.Within last) : Within last (.classDef head body)
  | importNames (names : List String) : Within last (.importNames names)
  | importFrom (origin : String) (names : List String) : Within last (.importFrom origin names)
  | expr (value : Expr) : Within last (.expr value)
  | simple (kind : SimpleKind) (parts : List Expr) : Within last (.simple kind parts)
  | compound {kind : CompoundKind} {parts : List Expr} {blocks : List Block}
      (hblocks : ∀ b ∈ blocks, ∀ s ∈ b.body, s.Within last) : Within last (.compound kind parts blocks)

/--
All definitions in a block stand on lines up to `last`.
-/
def Block.Within (last : Nat) (b : Block) : Prop :=
  ∀ s ∈ b.body, s.Within last

namespace Grammar

open CodeAudit.Syntax.Parser

variable {low last : Nat} {r : Nested}

theorem assignmentRest_within (first : Expr)
    : Gives low last (assignmentRest r first) (Stmt.Within last) := by
  unfold assignmentRest
  refine gives_of_bind fun values => ?_
  refine gives_of_bind fun _ => ?_
  exact gives_pure (.simple _ _)

theorem expressionStatement_within : Gives low last (expressionStatement r) (Stmt.Within last) := by
  unfold expressionStatement
  refine gives_of_bind fun first => ?_
  refine gives_of_bind fun kind => ?_
  split
  . exact assignmentRest_within first
  . refine gives_of_bind fun _ => ?_
    refine gives_of_bind fun _ => ?_
    refine gives_of_bind fun hint => ?_
    refine gives_of_bind fun hasValue => ?_
    split
    . exact gives_of_bind fun value => gives_pure (.simple _ _)
    . exact gives_pure (.simple _ _)
  . split
    . refine gives_of_bind fun _ => ?_
      refine gives_of_bind fun _ => ?_
      exact gives_of_bind fun value => gives_pure (.simple _ _)
    . exact gives_pure (.expr _)
  . exact gives_pure (.expr _)

theorem importFromStatement_within : Gives low last importFromStatement (Stmt.Within last) := by
  unfold importFromStatement
  refine gives_of_bind fun _ => ?_
  refine gives_of_bind fun dots => ?_
  refine gives_of_bind fun origin => ?_
  refine gives_of_bind fun _ => ?_
  exact gives_of_bind fun names => gives_pure (.importFrom _ _)

theorem simpleStatement_within : Gives low last (simpleStatement r) (Stmt.Within last) := by
  unfold simpleStatement
  refine gives_of_bind fun kind => ?_
  split
  . refine gives_of_bind fun _ => ?_
    refine gives_of_bind fun kind => ?_
    split
    . exact gives_of_bind fun value => gives_pure (.simple _ _)
    . exact gives_pure (.simple _ _)
  . refine gives_of_bind fun _ => ?_
    exact gives_of_bind fun names => gives_pure (.importNames _)
  . exact importFromStatement_within
  . refine gives_of_bind fun _ => ?_
    refine gives_of_bind fun kind => ?_
    split
    . refine gives_of_bind fun error => ?_
      refine gives_of_bind fun hasCause => ?_
      split
      . exact gives_of_bind fun cause => gives_pure (.simple _ _)
      . exact gives_pure (.simple _ _)
    . exact gives_pure (.simple _ _)
  . exact gives_of_bind fun _ => gives_pure (.simple _ _)
  . refine gives_of_bind fun _ => ?_
    refine gives_of_bind fun found => ?_
    exact gives_of_bind fun _ => gives_pure (.simple _ _)
  . refine gives_of_bind fun _ => ?_
    refine gives_of_bind fun condition => ?_
    refine gives_of_bind fun hasMessage => ?_
    split
    . exact gives_of_bind fun message => gives_pure (.simple _ _)
    . exact gives_pure (.simple _ _)
  . exact gives_of_bind fun _ => gives_pure (.simple _ _)
  . exact gives_of_bind fun _ => gives_pure (.simple _ _)
  . refine gives_of_bind fun _ => ?_
    exact gives_of_bind fun _ => gives_pure (.simple _ _)
  . refine gives_of_bind fun _ => ?_
    exact gives_of_bind fun _ => gives_pure (.simple _ _)
  . exact expressionStatement_within

theorem simpleStatements_within
    : Gives low last (simpleStatements r) fun ss => ∀ s ∈ ss, s.Within last := by
  unfold simpleStatements
  refine gives_bind simpleStatement_within fun first hfirst => ?_
  refine gives_bind (gives_whileMore simpleStatement_within) fun rest hrest => ?_
  refine gives_of_bind fun _ => ?_
  exact gives_pure (List.forall_mem_cons.mpr ⟨hfirst, hrest⟩)

/-! ### Blocks -/

section Blocks

-- The blocks of a phrase are read with the parser that it is given for the statements in them.
variable (hr : ∀ low, Gives low last r.statements fun ss => ∀ s ∈ ss, s.Within last)

include hr

theorem block_within : Gives low last (block r) fun ss => ∀ s ∈ ss, s.Within last := by
  unfold block
  refine gives_of_bind fun _ => ?_
  refine gives_of_bind fun isIndented => ?_
  split
  . refine gives_of_bind fun _ => ?_
    refine gives_of_bind fun _ => ?_
    refine gives_bind (hr low) fun body hbody => ?_
    refine gives_of_bind fun _ => ?_
    refine gives_of_bind fun _ => ?_
    exact gives_pure hbody
  . exact simpleStatements_within

theorem otherwise_within : Gives low last (otherwise r) fun bs => ∀ b ∈ bs, b.Within last := by
  unfold otherwise
  refine gives_of_bind fun isThere => ?_
  split
  . refine gives_bind (block_within hr) fun body hbody => ?_
    exact gives_pure (List.forall_mem_singleton.mpr hbody)
  . exact gives_pure (by simp)

theorem finalBlock_within : Gives low last (finalBlock r) fun bs => ∀ b ∈ bs, b.Within last := by
  unfold finalBlock
  refine gives_of_bind fun isThere => ?_
  split
  . refine gives_bind (block_within hr) fun body hbody => ?_
    exact gives_pure (List.forall_mem_singleton.mpr hbody)
  . exact gives_pure (by simp)

theorem conditional_within : Gives low last (conditional r) (Stmt.Within last) := by
  unfold conditional
  refine gives_of_bind fun test => ?_
  refine gives_bind (block_within hr) fun body hbody => ?_
  have hbranch : Gives low last
      (do
        let test ← namedExpression r
        let body ← block r
        return (test, body))
      fun branch => ∀ s ∈ branch.2, s.Within last := by
    refine gives_of_bind fun test => ?_
    exact gives_bind (block_within hr) fun body hbody => gives_pure hbody
  refine gives_bind (gives_whileMore hbranch) fun further hfurther => ?_
  refine gives_bind (otherwise_within hr) fun rest hrest => ?_
  apply gives_pure
  apply Stmt.Within.compound
  refine List.forall_mem_cons.mpr ⟨hbody, ?_⟩
  clear hbranch
  induction further with
  | nil => exact hrest
  | cons branch further ih =>
    rw [List.forall_mem_cons] at hfurther
    refine List.forall_mem_singleton.mpr (List.forall_mem_singleton.mpr (.compound ?_))
    exact List.forall_mem_cons.mpr ⟨hfurther.1, ih hfurther.2⟩

theorem whileLoop_within : Gives low last (whileLoop r) (Stmt.Within last) := by
  unfold whileLoop
  refine gives_of_bind fun test => ?_
  refine gives_bind (block_within hr) fun body hbody => ?_
  refine gives_bind (otherwise_within hr) fun rest hrest => ?_
  exact gives_pure (.compound (List.forall_mem_cons.mpr ⟨hbody, hrest⟩))

theorem forLoop_within : Gives low last (forLoop r) (Stmt.Within last) := by
  unfold forLoop
  refine gives_of_bind fun targets => ?_
  refine gives_of_bind fun _ => ?_
  refine gives_of_bind fun range => ?_
  refine gives_bind (block_within hr) fun body hbody => ?_
  refine gives_bind (otherwise_within hr) fun rest hrest => ?_
  exact gives_pure (.compound (List.forall_mem_cons.mpr ⟨hbody, hrest⟩))

theorem withStatement_within : Gives low last (withStatement r) (Stmt.Within last) := by
  unfold withStatement
  refine gives_of_bind fun items => ?_
  refine gives_bind (block_within hr) fun body hbody => ?_
  exact gives_pure (.compound (List.forall_mem_singleton.mpr hbody))

theorem handler_within (group : Bool) : Gives low last (handler r group) (Block.Within last) := by
  unfold handler
  refine gives_of_bind fun star => ?_
  refine gives_of_bind fun _ => ?_
  refine gives_of_bind fun kind => ?_
  split
  . exact gives_bind (block_within hr) fun body hbody => gives_pure hbody
  . refine gives_of_bind fun error => ?_
    refine gives_of_bind fun isNamed => ?_
    split
    . refine gives_of_bind fun _ => ?_
      exact gives_bind (block_within hr) fun body hbody => gives_pure hbody
    . exact gives_bind (block_within hr) fun body hbody => gives_pure hbody

theorem tryStatement_within : Gives low last (tryStatement r) (Stmt.Within last) := by
  unfold tryStatement
  refine gives_bind (block_within hr) fun body hbody => ?_
  refine gives_of_bind fun hasHandlers => ?_
  split
  . refine gives_of_bind fun kind => ?_
    refine gives_bind (handler_within hr _) fun first hfirst => ?_
    refine gives_bind (gives_whileMore (handler_within hr _)) fun rest hrest => ?_
    refine gives_bind (otherwise_within hr) fun other hother => ?_
    refine gives_bind (finalBlock_within hr) fun final hfinal => ?_
    apply gives_pure
    apply Stmt.Within.compound
    refine List.forall_mem_append.mpr ⟨List.forall_mem_append.mpr ⟨?_, hother⟩, hfinal⟩
    exact List.forall_mem_cons.mpr ⟨hbody, List.forall_mem_cons.mpr ⟨hfirst, hrest⟩⟩
  . refine gives_bind (finalBlock_within hr) fun final hfinal => ?_
    refine gives_of_bind fun _ => ?_
    exact gives_pure (.compound (List.forall_mem_cons.mpr ⟨hbody, hfinal⟩))

theorem caseBlock_within : Gives low last (caseBlock r) (Block.Within last) := by
  unfold caseBlock
  refine gives_of_bind fun _ => ?_
  refine gives_of_bind fun ps => ?_
  refine gives_of_bind fun condition => ?_
  exact gives_bind (block_within hr) fun body hbody => gives_pure hbody

theorem matchStatement_within : Gives low last (matchStatement r) (Stmt.Within last) := by
  unfold matchStatement
  refine gives_of_bind fun _ => ?_
  refine gives_of_bind fun subjects => ?_
  refine gives_of_bind fun _ => ?_
  refine gives_of_bind fun _ => ?_
  refine gives_of_bind fun _ => ?_
  refine gives_of_bind fun _ => ?_
  refine gives_of_bind fun _ => ?_
  refine gives_bind (gives_many1 (caseBlock_within hr)) fun cases hcases => ?_
  refine gives_of_bind fun _ => ?_
  refine gives_of_bind fun _ => ?_
  exact gives_pure (.compound hcases)

/-! ### Definitions -/

theorem functionDefinition_within {first : Nat} (hfirst : 1 ≤ first) (isAsync : Bool) (decorators : List Expr)
    : Gives first last (functionDefinition r first isAsync decorators) (Stmt.Within last) := by
  unfold functionDefinition
  refine gives_of_bind fun name => ?_
  refine gives_of_bind fun _ => ?_
  refine gives_of_bind fun ps => ?_
  refine gives_of_bind fun _ => ?_
  refine gives_of_bind fun returns => ?_
  refine gives_bind (block_within hr) fun body hbody => ?_
  refine gives_bind gives_lastLine fun line hline => ?_
  exact gives_pure (.functionDef ⟨hfirst, hline⟩ hbody)

theorem classDefinition_within {first : Nat} (hfirst : 1 ≤ first) (decorators : List Expr)
    : Gives first last (classDefinition r first decorators) (Stmt.Within last) := by
  unfold classDefinition
  refine gives_of_bind fun name => ?_
  refine gives_of_bind fun arguments => ?_
  refine gives_bind (block_within hr) fun body hbody => ?_
  refine gives_bind gives_lastLine fun line hline => ?_
  exact gives_pure (.classDef ⟨hfirst, hline⟩ hbody)

theorem definition_within : Gives low last (definition r) (Stmt.Within last) := by
  unfold definition
  refine gives_of_bind fun decorators => ?_
  intro c c' s hc hrun
  rcases run_bind.mp hrun with ⟨first, c₁, hline, hrun⟩
  cases hline
  rcases run_bind.mp hrun with ⟨isClass, c₂, hclass, hrun⟩
  rcases keyword?_run hc hclass with ⟨rfl, rfl⟩ | ⟨rfl, hline, hc₂⟩
  . rcases run_bind.mp hrun with ⟨isAsync, c₃, hasync, hrun⟩
    rcases run_bind.mp hrun with ⟨_, c₄, hdef, hrun⟩
    rcases keyword?_run hc hasync with ⟨rfl, rfl⟩ | ⟨rfl, hline, hc₃⟩
    . rcases keyword_run hc hdef with ⟨hline, hc₄⟩
      exact functionDefinition_within hr hline false decorators hc₄ hrun
    . exact functionDefinition_within hr hline true decorators (hc₃.reaches (Parser.reaches _ hdef)) hrun
  . exact classDefinition_within hr hline decorators hc₂ hrun

/-! ### Modules -/

theorem statement_within : Gives low last (statement r) fun ss => ∀ s ∈ ss, s.Within last := by
  have hone : ∀ {p : Parser Stmt}, Gives low last p (Stmt.Within last) →
      Gives low last (do return [← p]) fun ss => ∀ s ∈ ss, s.Within last := by
    intro p hp
    exact gives_bind hp fun s hs => gives_pure (List.forall_mem_singleton.mpr hs)
  unfold statement
  refine gives_of_bind fun kind => ?_
  refine gives_of_bind fun second => ?_
  split
  . exact gives_of_bind fun _ => hone (conditional_within hr)
  . exact gives_of_bind fun _ => hone (whileLoop_within hr)
  . exact gives_of_bind fun _ => hone (forLoop_within hr)
  . exact gives_of_bind fun _ => hone (withStatement_within hr)
  . exact gives_of_bind fun _ => hone (tryStatement_within hr)
  . exact gives_of_bind fun _ => gives_of_bind fun _ => hone (forLoop_within hr)
  . exact gives_of_bind fun _ => gives_of_bind fun _ => hone (withStatement_within hr)
  . exact hone (definition_within hr)
  . exact hone (definition_within hr)
  . exact hone (definition_within hr)
  . exact hone (definition_within hr)
  . exact gives_orElse (hone (matchStatement_within hr)) simpleStatements_within
  . exact simpleStatements_within

theorem statements_within : Gives low last (statements r) fun ss => ∀ s ∈ ss, s.Within last := by
  unfold statements
  refine gives_bind (gives_many1 (statement_within hr)) fun found hfound => ?_
  apply gives_pure
  intro s hs
  rcases List.mem_flatten.mp hs with ⟨ss, hss, hmem⟩
  exact hfound ss hss s hmem

theorem module_within : Gives low last (module_ r) fun ss => ∀ s ∈ ss, s.Within last := by
  unfold module_
  refine gives_bind (P := fun ss => ∀ s ∈ ss, s.Within last) ?_ fun body hbody => ?_
  . refine gives_of_bind fun kind => ?_
    split
    . exact gives_pure (by simp)
    . exact hr low
  . refine gives_of_bind fun _ => ?_
    refine gives_of_bind fun _ => ?_
    exact gives_pure hbody

end Blocks

end Grammar

theorem Nested.ofDepth_within (depth low last : Nat)
    : Parser.Gives low last (ofDepth depth).statements fun ss => ∀ s ∈ ss, s.Within last := by
  induction depth generalizing low with
  | zero => exact Parser.gives_failure
  | succ depth ih => exact Grammar.statements_within ih

theorem parse?_within {code : List Char} {body : List Stmt} (h : parse? code = some body)
    : ∀ s ∈ body, s.Within (Text.lines (Text.unifyLineEnds code)).length := by
  unfold parse? at h
  rcases Option.bind_eq_some_iff.mp h with ⟨tokens, htokens, h⟩
  rcases Option.bind_eq_some_iff.mp h with ⟨⟨body', c⟩, hrun, h⟩
  cases h
  have hstart : Cursor.Within 0 (Text.lines (Text.unifyLineEnds code)).length ⟨tokens, 0⟩ :=
    ⟨Nat.le_refl _, Nat.zero_le _, 1, Nat.le_refl _, Nat.zero_le _, Lexer.tokens?_lined htokens⟩
  exact Grammar.module_within (fun low => Nested.ofDepth_within _ low _) hstart hrun

/-! ### Outlines -/

end Syntax

/--
An entry that goes from a line to one that is not before it, within the lines from one to `last`.
-/
def Entry.Within (last : Int) (e : Entry) : Prop :=
  1 ≤ e.firstLine ∧ e.firstLine ≤ e.lastLine ∧ e.lastLine ≤ last

namespace Syntax

namespace Survey

/--
All entries stand on lines up to `last`.
-/
def Within (last : Nat) (v : Survey) : Prop :=
  ∀ e ∈ v.entries, e.Within last

theorem addEntry_within {last : Nat} {v : Survey} (hv : v.Within last) {e : Entry} {span : Span}
    (hspan : span.Within last) (hfirst : e.firstLine = span.first) (hlast : e.lastLine = span.last)
    : (v.addEntry e).Within last := by
  unfold Within addEntry
  refine List.forall_mem_append.mpr ⟨hv, List.forall_mem_singleton.mpr ?_⟩
  rcases hspan with ⟨hone, hle, hend⟩
  unfold Entry.Within
  omega

mutual

theorem visit_within {last : Nat} {v : Survey} (hv : v.Within last) {s : Stmt} (hs : s.Within last)
    : (v.visit s).Within last := by
  cases hs with
  | functionDef hspan hbody =>
    rw [visit]
    exact visitAll_within (addEntry_within hv hspan rfl rfl) hbody
  | @classDef head body hspan hbody =>
    rw [visit]
    have hentry : Survey.Within last
        { v.addEntry (classEntry v.addresses head body) with owner := some head.name } :=
      addEntry_within hv hspan rfl rfl
    exact visitAll_within hentry hbody
  | importNames names => exact hv
  | importFrom origin names => exact hv
  | expr value => exact hv
  | simple kind parts => exact hv
  | compound hblocks =>
    rw [visit]
    exact visitBlocks_within hv hblocks

theorem visitAll_within {last : Nat} {v : Survey} (hv : v.Within last) {ss : List Stmt}
    (hss : ∀ s ∈ ss, s.Within last) : (v.visitAll ss).Within last := by
  cases ss with
  | nil => exact hv
  | cons s ss =>
    rw [List.forall_mem_cons] at hss
    rw [visitAll]
    exact visitAll_within (visit_within hv hss.1) hss.2

theorem visitBlocks_within {last : Nat} {v : Survey} (hv : v.Within last) {bs : List Block}
    (hbs : ∀ b ∈ bs, b.Within last) : (v.visitBlocks bs).Within last := by
  cases bs with
  | nil => exact hv
  | cons b bs =>
    rw [List.forall_mem_cons] at hbs
    cases b with
    | block role parts body =>
      rw [visitBlocks]
      exact visitBlocks_within (visitAll_within hv hbs.1) hbs.2

end

end Survey

variable {addresses : Addresses}

theorem outline_within {code : List Char} {path : String} {e : Entry}
    (he : e ∈ (outline addresses code path).entries)
    : e.Within ((outline addresses code path).lines.total + Text.loneReturns code) := by
  unfold outline at he ⊢
  split at he
  . cases he
  . next body hbody =>
    have htotal : (lineCounts code).total + Text.loneReturns code =
        ((Text.lines (Text.unifyLineEnds code)).length : Int) := by
      unfold lineCounts
      dsimp only
      rw [Text.length_lines, Text.length_lines, Text.count_unifyLineEnds]
      omega
    have hstart : Survey.Within (Text.lines (Text.unifyLineEnds code)).length { addresses } := by
      intro e he
      cases he
    dsimp only
    rw [htotal]
    exact Survey.visitAll_within hstart (parse?_within hbody) e he

theorem readText_eq_ok {files : Files.Store} {path : String} {code : List Char}
    (h : files.readText path = .ok code) : ∃ cs, code = Text.unifyLineEnds cs := by
  unfold Files.Store.readText at h
  rcases bind_eq_ok_iff.mp h with ⟨bytes, _, h⟩
  split at h
  . next cs _ =>
    cases h
    exact ⟨cs, rfl⟩
  . cases h

theorem outlineOfFile_within {files : Files.Store} {path : String} {e : Entry}
    (he : e ∈ (outlineOfFile addresses files path).entries)
    : e.Within (outlineOfFile addresses files path).lines.total := by
  unfold outlineOfFile at he ⊢
  split at he
  . next code hcode =>
    rcases readText_eq_ok hcode with ⟨cs, rfl⟩
    have hwithin := outline_within he
    rw [Text.loneReturns_eq_zero (Text.return_notMem_unifyLineEnds cs)] at hwithin
    simpa using hwithin
  . cases he

/--
The entries of an outline stand on lines that the source has, where every carriage return that no line feed
follows makes a line more than are counted. In the outline of a file, whose line ends are made alike before
they are counted, the entries stand on the lines that are counted.
-/
theorem entries_stand_on_lines (addresses : Addresses) (path : String)
    : (∀ code, ∀ e ∈ (outline addresses code path).entries,
        1 ≤ e.firstLine ∧ e.firstLine ≤ e.lastLine ∧
          e.lastLine ≤ (outline addresses code path).lines.total + Text.loneReturns code) ∧
      ∀ files, ∀ e ∈ (outlineOfFile addresses files path).entries,
        1 ≤ e.firstLine ∧ e.firstLine ≤ e.lastLine ∧ e.lastLine ≤ (outlineOfFile addresses files path).lines.total :=
  ⟨fun _ _ he => outline_within he, fun _ _ he => outlineOfFile_within he⟩

-- A class with a method that ends in a string of two lines, with line ends of two kinds.
def shelfCode : List Char :=
  "@d\r\nclass Shelf:\r\n    def label(self): return \"\"\"\n\"\"\"\r\n".toList

def shelfFiles : Files.Store where
  entries := [(["shelf.py"], .file (shelfCode.map Char.toNat))]

-- Where expressions are kept.
def shelfAddresses : Addresses := fun _ _ => 0

theorem entries_stand_on_lines_shelf
    : (∃ e ∈ (outline shelfAddresses shelfCode "shelf.py").entries,
        (e.name = "label" ∧ e.firstLine = 3 ∧ e.lastLine = 4) ∧
          1 ≤ e.firstLine ∧ e.firstLine ≤ e.lastLine ∧
            e.lastLine ≤ (outline shelfAddresses shelfCode "shelf.py").lines.total + Text.loneReturns shelfCode) ∧
      ∃ e ∈ (outlineOfFile shelfAddresses shelfFiles "shelf.py").entries,
        (e.name = "Shelf" ∧ e.firstLine = 2 ∧ e.lastLine = 4) ∧
          1 ≤ e.firstLine ∧ e.firstLine ≤ e.lastLine ∧
            e.lastLine ≤ (outlineOfFile shelfAddresses shelfFiles "shelf.py").lines.total := by
  have hwithin := entries_stand_on_lines shelfAddresses "shelf.py"
  have hlabel : ∃ e ∈ (outline shelfAddresses shelfCode "shelf.py").entries,
      e.name = "label" ∧ e.firstLine = 3 ∧ e.lastLine = 4 := by
    decide +kernel
  have hshelf : ∃ e ∈ (outlineOfFile shelfAddresses shelfFiles "shelf.py").entries,
      e.name = "Shelf" ∧ e.firstLine = 2 ∧ e.lastLine = 4 := by
    decide +kernel
  rcases hlabel with ⟨e, he, hlines⟩
  rcases hshelf with ⟨e', he', hlines'⟩
  exact ⟨⟨e, he, hlines, hwithin.1 _ e he⟩, ⟨e', he', hlines', hwithin.2 _ e' he'⟩⟩

-- A function whose lines end in carriage returns alone.
def typedCode : List Char := "def f():\r    pass\r".toList

/--
The function stands on two lines of a text of which one line is counted.
-/
theorem outline_typedCode_exceeds
    : let o := outline shelfAddresses typedCode "f.py"
      o.problems = [] ∧ o.lines.total = 1 ∧
        o.entries.map (fun e => (e.name, e.firstLine, e.lastLine)) = [("f", 1, 2)] := by
  decide +kernel

end Syntax

end CodeAudit
