import CodeAudit.Syntax.Lexer
import CodeAudit.Syntax.Survey
import Mathlib.Data.List.Basic

/-!
This module contains how dotted names are shown. The identifiers of a chain of attributes stand in its name with dots
between them, and can be read back from there, so that no two chains have the same name. A decorator that is called has
the name of what is called.
-/

namespace CodeAudit.Syntax

/--
A text that may be a name.
-/
structure Identifier where
  text : String
  valid : Lexer.isIdentifier text.toList = true

/--
Identifiers one after the other: the first, and those after it.
-/
structure DottedName where
  first : Identifier
  rest : List Identifier

theorem Identifier.dot_notMem (i : Identifier) : '.' ∉ i.text.toList := by
  rcases i with ⟨text, valid⟩
  intro hdot
  cases htext : text.toList with
  | nil => simp [htext] at hdot
  | cons c cs =>
    rw [htext] at hdot valid
    simp only [Lexer.isIdentifier, Bool.and_eq_true, List.all_eq_true] at valid
    rcases List.mem_cons.mp hdot with rfl | hdot
    . cases valid.1
    . cases valid.2 _ hdot

namespace DottedName

/--
The texts of the identifiers.
-/
def parts (d : DottedName) : List String :=
  d.first.text :: d.rest.map (·.text)

/--
The texts of the identifiers with dots between them.
-/
def text (d : DottedName) : String :=
  String.intercalate "." d.parts

/--
The chain of attributes: the first identifier is a name, and each one after it is an attribute of what stands before it.
-/
def chain (d : DottedName) : Expr :=
  (d.rest.map (·.text)).foldl .attribute (.name d.first.text)

/--
A decorator that goes by the name: the chain itself, or a call of it.
-/
inductive Decorates (d : DottedName) : Expr → Prop where
  | bare : Decorates d d.chain
  | called (arguments : List Expr) : Decorates d (.call d.chain arguments)

/-! ### Names of chains -/

theorem dottedName_foldl (address : Nat) (e : Expr) (attrs : List String)
    : (attrs.foldl .attribute e).dottedName address = String.intercalate "." (e.dottedName address :: attrs) := by
  induction attrs generalizing e with
  | nil => simp
  | cons attr attrs ih =>
    rw [List.foldl_cons, ih, Expr.dottedName]
    simp [String.append_assoc]

theorem dottedName_chain (address : Nat) (d : DottedName) : d.chain.dottedName address = d.text := by
  apply dottedName_foldl

theorem decoratorName_chain (address : Nat) (d : DottedName) : d.chain.decoratorName address = d.text := by
  rw [← dottedName_chain address]
  unfold chain
  -- The chain ends with its last attribute, if there is one.
  rcases List.eq_nil_or_concat (d.rest.map (·.text)) with hrest | ⟨attrs, attr, hrest⟩
  . rw [hrest]
    rfl
  . rw [hrest, List.concat_eq_append, List.foldl_append]
    rfl

theorem Decorates.decoratorName {d : DottedName} {e : Expr} (h : d.Decorates e) (address : Nat)
    : e.decoratorName address = d.text := by
  cases h with
  | bare => apply decoratorName_chain
  | called arguments => apply dottedName_chain

/-! ### Reading names back -/

theorem dot_notMem_of_mem_parts {d : DottedName} {part : String} (h : part ∈ d.parts) : '.' ∉ part.toList := by
  rcases List.mem_cons.mp h with rfl | h
  . apply d.first.dot_notMem
  . rcases List.mem_map.mp h with ⟨i, -, rfl⟩
    apply i.dot_notMem

theorem splitOn_text (d : DottedName) : (d.text.toList.splitOn '.').map String.ofList = d.parts := by
  have hsplit : d.text.toList.splitOn '.' = d.parts.map String.toList := by
    unfold text
    rw [String.toList_intercalate]
    apply List.splitOn_intercalate
    . intro cs hcs
      rcases List.mem_map.mp hcs with ⟨part, hpart, rfl⟩
      apply dot_notMem_of_mem_parts hpart
    . simp [parts]
  rw [hsplit]
  simp

theorem chain_eq_of_parts {d d' : DottedName} (h : d.parts = d'.parts) : d.chain = d'.chain := by
  rcases List.cons.inj h with ⟨hfirst, hrest⟩
  unfold chain
  rw [hfirst, hrest]

theorem text_eq_iff {d d' : DottedName} : d.text = d'.text ↔ d.chain = d'.chain := by
  constructor
  . intro h
    apply chain_eq_of_parts
    rw [← splitOn_text, h, splitOn_text]
  . intro h
    rw [← dottedName_chain 0, h, dottedName_chain]

/--
A chain of attributes is shown as its identifiers with dots between them, as it is and as a decorator, also if it is
called there. The identifiers can be read back, so that what is shown tells chains apart, and nothing but them.
-/
theorem chain_shown_apart (d : DottedName) (address : Nat)
    : d.chain.dottedName address = String.intercalate "." d.parts ∧
      (∀ e, d.Decorates e → e.decoratorName address = String.intercalate "." d.parts) ∧
      ((String.intercalate "." d.parts).toList.splitOn '.').map String.ofList = d.parts ∧
      ∀ (d' : DottedName) (address' : Nat),
        (d.chain.dottedName address = d'.chain.dottedName address' ↔ d.chain = d'.chain) ∧
        ∀ e e', d.Decorates e → d'.Decorates e' →
          (e.decoratorName address = e'.decoratorName address' ↔ d.chain = d'.chain) := by
  refine ⟨d.dottedName_chain address, fun e h => h.decoratorName address, d.splitOn_text, ?_⟩
  intro d' address'
  constructor
  . rw [dottedName_chain, dottedName_chain, text_eq_iff]
  . intro e e' h h'
    rw [h.decoratorName, h'.decoratorName, text_eq_iff]

def cacheName : DottedName :=
  ⟨⟨"functools", by decide +kernel⟩, [⟨"lru_cache", by decide +kernel⟩]⟩

theorem chain_shown_apart_cacheName
    : cacheName.Decorates (.call cacheName.chain [.constant]) ∧
      (Expr.call cacheName.chain [.constant]).decoratorName 64 = "functools.lru_cache" := by
  refine ⟨.called _, ?_⟩
  rw [(chain_shown_apart cacheName 64).2.1 _ (.called _)]
  decide +kernel

end DottedName

end CodeAudit.Syntax
