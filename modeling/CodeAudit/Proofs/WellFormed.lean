import CodeAudit.Data.Json
import CodeAudit.Data.Toml
import CodeAudit.Proofs.Fault
import CodeAudit.Proofs.Table

/-!
This module contains what is well formed: the parts of a value that is, and the values that the readers for
JSON and TOML give.
-/

namespace CodeAudit

namespace Value.WellFormed

theorem of_mem_list {vs : List Value} (h : (Value.list vs).WellFormed) {v : Value} (hv : v ∈ vs)
    : v.WellFormed := by
  cases h with
  | list hvs => exact hvs v hv

theorem nodup_names {fields : Table Value} (h : (Value.object fields).WellFormed)
    : fields.names.Nodup := by
  cases h with
  | object hnames => exact hnames

theorem of_get? {fields : Table Value} (h : (Value.object fields).WellFormed) {name : String}
    {v : Value} (hv : fields.get? name = some v) : v.WellFormed := by
  cases h with
  | object _ hfields => exact hfields _ (Table.mem_of_get? hv)

theorem empty : (Value.object []).WellFormed := by
  apply object
  . exact List.nodup_nil
  . simp

theorem put {fields : Table Value} (h : (Value.object fields).WellFormed) (name : String) {v : Value}
    (hv : v.WellFormed) : (Value.object (fields.put name v)).WellFormed := by
  cases h with
  | object hnames hfields =>
    apply object (Table.nodup_put hnames name v)
    intro field hfield
    cases Table.mem_put hfield with
    | inl heq => rw [heq]; exact hv
    | inr hmem => exact hfields field hmem

theorem getD {fields : Table Value} (h : (Value.object fields).WellFormed) (name : String)
    {default : Value} (hdefault : default.WellFormed)
    : ((fields.get? name).getD default).WellFormed := by
  cases hfound : fields.get? name with
  | none => exact hdefault
  | some v => exact h.of_get? hfound

end Value.WellFormed

/-! ### JSON -/

namespace Json

theorem unsigned_wellFormed {negative : Bool} {cs rest : List Char} {v : Value}
    (h : unsigned negative cs = .ok (v, rest)) : v.WellFormed := by
  unfold unsigned at h
  dsimp only at h
  generalize (if (cs.takeWhile Char.isDigit).head? == some '0' then ['0']
    else cs.takeWhile Char.isDigit) = whole at h
  split at h
  . cases h
  . split at h
    . split at h
      . cases h
      . cases h
        exact .int _
    . cases h
      exact .float _
    . cases h
      exact .float _

theorem words_wellFormed {word : List Char × Value} (h : word ∈ words) : word.2.WellFormed := by
  simp only [words, List.mem_cons, List.not_mem_nil, or_false] at h
  rcases h with rfl | rfl | rfl | rfl | rfl | rfl
  . exact .null
  . exact .bool _
  . exact .bool _
  . exact .float _
  . exact .float _
  . exact .float _

theorem scalar_wellFormed {cs rest : List Char} {v : Value} (h : scalar cs = .ok (v, rest))
    : v.WellFormed := by
  unfold scalar at h
  split at h
  . next word w hfind =>
    cases h
    exact words_wellFormed (List.mem_of_find?_eq_some hfind)
  . split at h
    . rcases bind_eq_ok_iff.mp h with ⟨⟨s, rest'⟩, -, hs⟩
      cases hs
      exact .text s
    . exact unsigned_wellFormed h
    . exact unsigned_wellFormed h

theorem ofList_wellFormed {fields : List (String × Value)}
    (h : ∀ field ∈ fields, field.2.WellFormed) : (Value.object (Table.ofList fields)).WellFormed := by
  apply Value.WellFormed.object
  . apply Table.nodup_overlay
    exact List.nodup_nil
  . intro field hfield
    cases Table.mem_overlay hfield with
    | inl hnil => simp at hnil
    | inr hmem => exact h field hmem

theorem value_succ_wellFormed {fuel : Nat}
    (hmembers : ∀ cs vs rest, members fuel cs = .ok (vs, rest) → ∀ v ∈ vs, v.WellFormed)
    (hfields : ∀ cs fs rest, fields fuel cs = .ok (fs, rest) → ∀ field ∈ fs, field.2.WellFormed)
    {cs rest : List Char} {v : Value} (h : value (fuel + 1) cs = .ok (v, rest)) : v.WellFormed := by
  unfold value at h
  split at h
  . split at h
    . cases h
      exact .list (by simp)
    . rcases bind_eq_ok_iff.mp h with ⟨⟨vs, rest'⟩, hvs, hv⟩
      cases hv
      exact .list (hmembers _ _ _ hvs)
  . split at h
    . cases h
      exact .empty
    . rcases bind_eq_ok_iff.mp h with ⟨⟨fs, rest'⟩, hfs, hv⟩
      cases hv
      exact ofList_wellFormed (hfields _ _ _ hfs)
  . exact scalar_wellFormed h

theorem members_succ_wellFormed {fuel : Nat}
    (hvalue : ∀ cs v rest, value fuel cs = .ok (v, rest) → v.WellFormed)
    (hmembers : ∀ cs vs rest, members fuel cs = .ok (vs, rest) → ∀ v ∈ vs, v.WellFormed)
    {cs rest : List Char} {vs : List Value} (h : members (fuel + 1) cs = .ok (vs, rest))
    : ∀ v ∈ vs, v.WellFormed := by
  unfold members at h
  rcases bind_eq_ok_iff.mp h with ⟨⟨v, rest'⟩, hv, h⟩
  have hwell : v.WellFormed := hvalue _ _ _ hv
  dsimp only at h
  split at h
  . rcases bind_eq_ok_iff.mp h with ⟨⟨ws, rest''⟩, hws, h⟩
    cases h
    exact List.forall_mem_cons.mpr ⟨hwell, hmembers _ _ _ hws⟩
  . cases h
    simpa using hwell
  . cases h

theorem fields_succ_wellFormed {fuel : Nat}
    (hvalue : ∀ cs v rest, value fuel cs = .ok (v, rest) → v.WellFormed)
    (hfields : ∀ cs fs rest, fields fuel cs = .ok (fs, rest) → ∀ field ∈ fs, field.2.WellFormed)
    {cs rest : List Char} {fs : List (String × Value)} (h : fields (fuel + 1) cs = .ok (fs, rest))
    : ∀ field ∈ fs, field.2.WellFormed := by
  unfold fields at h
  split at h
  . rcases bind_eq_ok_iff.mp h with ⟨⟨name, afterName⟩, -, h⟩
    dsimp only at h
    split at h
    . rcases bind_eq_ok_iff.mp h with ⟨⟨v, afterValue⟩, hv, h⟩
      have hwell : v.WellFormed := hvalue _ _ _ hv
      dsimp only at h
      split at h
      . rcases bind_eq_ok_iff.mp h with ⟨⟨gs, afterFields⟩, hgs, h⟩
        cases h
        exact List.forall_mem_cons.mpr ⟨hwell, hfields _ _ _ hgs⟩
      . cases h
        simpa using hwell
      . cases h
    . cases h
  . cases h

-- A value, the members of a list and the fields of an object are read with one fuel, so the three
-- go through the induction together.
theorem readers_wellFormed (fuel : Nat)
    : (∀ cs v rest, value fuel cs = .ok (v, rest) → v.WellFormed) ∧
      (∀ cs vs rest, members fuel cs = .ok (vs, rest) → ∀ v ∈ vs, v.WellFormed) ∧
      (∀ cs fs rest, fields fuel cs = .ok (fs, rest) → ∀ field ∈ fs, field.2.WellFormed) := by
  induction fuel with
  | zero =>
    refine ⟨?_, ?_, ?_⟩
    . intro cs v rest h
      simp [value] at h
    . intro cs vs rest h
      simp [members] at h
    . intro cs fs rest h
      simp [fields] at h
  | succ fuel ih =>
    rcases ih with ⟨hvalue, hmembers, hfields⟩
    refine ⟨?_, ?_, ?_⟩
    . intro cs v rest
      exact value_succ_wellFormed hmembers hfields
    . intro cs vs rest
      exact members_succ_wellFormed hvalue hmembers
    . intro cs fs rest
      exact fields_succ_wellFormed hvalue hfields

theorem read_wellFormed {s : String} {v : Value} (h : read s = .ok v) : v.WellFormed := by
  unfold read at h
  dsimp only at h
  rcases bind_eq_ok_iff.mp h with ⟨⟨w, rest⟩, hw, h⟩
  dsimp only at h
  split at h
  . cases h
    exact (readers_wellFormed _).1 _ _ _ hw
  . cases h

end Json

/-! ### TOML -/

namespace Toml

theorem change?_wellFormed {throughLists : Bool} {change : Fields → Option Fields} {k : Key}
    {t u : Fields}
    (hchange : ∀ t u, (Value.object t).WellFormed → change t = some u → (Value.object u).WellFormed)
    (ht : (Value.object t).WellFormed) (h : t.change? throughLists change k = some u)
    : (Value.object u).WellFormed := by
  induction k generalizing t u with
  | nil => exact hchange t u ht h
  | cons name names ih =>
    unfold Fields.change? at h
    split at h
    . rcases Option.map_eq_some_iff.mp h with ⟨w, hw, rfl⟩
      exact ht.put name (ih .empty hw)
    . next found hfound =>
      rcases Option.map_eq_some_iff.mp h with ⟨w, hw, rfl⟩
      exact ht.put name (ih (ht.of_get? hfound) hw)
    . next vs hfound =>
      have hvs : ∀ v ∈ vs, v.WellFormed := fun v hv => (ht.of_get? hfound).of_mem_list hv
      split at h
      . next last _ hlast =>
        rcases Option.map_eq_some_iff.mp h with ⟨w, hw, rfl⟩
        apply ht.put name
        apply Value.WellFormed.list
        intro v hv
        cases List.mem_append.mp hv with
        | inl hmem => exact hvs v (List.dropLast_subset vs hmem)
        | inr hmem =>
          rw [List.mem_singleton.mp hmem]
          exact ih (hvs _ (List.mem_of_getLast? hlast)) hw
      . cases h
    . cases h

theorem add?_wellFormed {name : String} {v : Value} (hv : v.WellFormed) (t u : Fields)
    (ht : (Value.object t).WellFormed) (h : t.add? name v = some u) : (Value.object u).WellFormed := by
  unfold Fields.add? at h
  split at h
  . cases h
  . cases h
    exact ht.put name hv

theorem append?_wellFormed {name : String} (t u : Fields) (ht : (Value.object t).WellFormed)
    (h : t.append? name = some u) : (Value.object u).WellFormed := by
  unfold Fields.append? at h
  split at h
  . cases h
    apply ht.put name
    apply Value.WellFormed.list
    intro v hv
    rw [List.mem_singleton.mp hv]
    exact .empty
  . next vs hfound =>
    cases h
    apply ht.put name
    apply Value.WellFormed.list
    intro v hv
    cases List.mem_append.mp hv with
    | inl hmem => exact (ht.of_get? hfound).of_mem_list hmem
    | inr hmem =>
      rw [List.mem_singleton.mp hmem]
      exact .empty
  . cases h

theorem orMalformed_eq_ok_iff {α : Type} {x : Option α} {a : α}
    : orMalformed x = .ok a ↔ x = some a := by
  cases x <;> simp [orMalformed]

theorem moment?_wellFormed {cs rest : List Char} {v : Value}
    (h : moment? cs = some (.ok (v, rest))) : v.WellFormed := by
  unfold moment? at h
  split at h
  . dsimp only at h
    split at h
    . cases h
    . split at h
      . cases h
        exact .moment _
      . cases h
        exact .moment _
  . rcases Option.map_eq_some_iff.mp h with ⟨rest', -, h⟩
    cases h
    exact .moment _

theorem basedInteger?_wellFormed {cs rest : List Char} {v : Value}
    (h : basedInteger? cs = some (v, rest)) : v.WellFormed := by
  unfold basedInteger? at h
  dsimp only at h
  split at h
  . rcases Option.map_eq_some_iff.mp h with ⟨_, -, h⟩
    cases h
    exact .int _
  . rcases Option.map_eq_some_iff.mp h with ⟨_, -, h⟩
    cases h
    exact .int _
  . rcases Option.map_eq_some_iff.mp h with ⟨_, -, h⟩
    cases h
    exact .int _
  . cases h

theorem decimal?_wellFormed {cs rest : List Char} {v : Value}
    (h : decimal? cs = some (.ok (v, rest))) : v.WellFormed := by
  unfold decimal? at h
  rcases Option.bind_eq_some_iff.mp h with ⟨⟨whole, rest'⟩, -, h⟩
  dsimp only at h
  split at h
  . split at h
    . cases h
    . cases h
      exact .int _
  . cases h
    exact .float _

theorem specialFloat?_wellFormed {cs rest : List Char} {v : Value}
    (h : specialFloat? cs = some (v, rest)) : v.WellFormed := by
  unfold specialFloat? at h
  dsimp only at h
  split at h
  . cases h
    exact .float _
  . cases h
    exact .float _
  . cases h

theorem pair_wellFormed {value : Reader Value}
    (hvalue : ∀ cs v rest, value cs = .ok (v, rest) → v.WellFormed)
    {cs rest : List Char} {k : Key} {v : Value} (h : pair value cs = .ok ((k, v), rest))
    : v.WellFormed := by
  unfold pair at h
  rcases bind_eq_ok_iff.mp h with ⟨⟨k', rest'⟩, -, h⟩
  dsimp only at h
  split at h
  . rcases bind_eq_ok_iff.mp h with ⟨⟨w, rest''⟩, hw, h⟩
    cases h
    exact hvalue _ _ _ hw
  . cases h

theorem members_wellFormed {value : Reader Value}
    (hvalue : ∀ cs v rest, value cs = .ok (v, rest) → v.WellFormed)
    {fuel : Nat} {cs rest : List Char} {vs : List Value}
    (h : members value fuel cs = .ok (vs, rest)) : ∀ v ∈ vs, v.WellFormed := by
  induction fuel generalizing cs vs rest with
  | zero => cases h
  | succ fuel ih =>
    unfold members at h
    rcases bind_eq_ok_iff.mp h with ⟨start, -, h⟩
    split at h
    . cases h
      simp
    . rcases bind_eq_ok_iff.mp h with ⟨⟨w, rest'⟩, hw, h⟩
      rcases bind_eq_ok_iff.mp h with ⟨after, -, h⟩
      have hwell : w.WellFormed := hvalue _ _ _ hw
      split at h
      . cases h
        simpa using hwell
      . rcases bind_eq_ok_iff.mp h with ⟨⟨ws, rest''⟩, hws, h⟩
        cases h
        exact List.forall_mem_cons.mpr ⟨hwell, ih hws⟩
      . cases h

theorem inlineFields_wellFormed {value : Reader Value}
    (hvalue : ∀ cs v rest, value cs = .ok (v, rest) → v.WellFormed)
    {fuel : Nat} {closed : List Key} {t u : Fields} {cs rest : List Char}
    (ht : (Value.object t).WellFormed) (h : inlineFields value fuel closed t cs = .ok (u, rest))
    : (Value.object u).WellFormed := by
  induction fuel generalizing closed t cs with
  | zero => cases h
  | succ fuel ih =>
    unfold inlineFields at h
    rcases bind_eq_ok_iff.mp h with ⟨⟨⟨k, v⟩, rest'⟩, hv, h⟩
    dsimp only at h
    split at h
    . cases h
    . rcases bind_eq_ok_iff.mp h with ⟨w, hw, h⟩
      have hwell : (Value.object w).WellFormed :=
        change?_wellFormed (add?_wellFormed (pair_wellFormed hvalue hv)) ht
          (orMalformed_eq_ok_iff.mp hw)
      split at h
      . cases h
        exact hwell
      . exact ih hwell h
      . cases h

theorem value_wellFormed {fuel : Nat} {cs rest : List Char} {v : Value}
    (h : value fuel cs = .ok (v, rest)) : v.WellFormed := by
  induction fuel generalizing cs v rest with
  | zero => cases h
  | succ fuel ih =>
    have hvalue : ∀ cs v rest, value fuel cs = .ok (v, rest) → v.WellFormed := fun _ _ _ => ih
    unfold value at h
    split at h
    . rcases map_eq_ok_iff.mp h with ⟨_, -, h⟩
      cases h
      exact .text _
    . rcases map_eq_ok_iff.mp h with ⟨_, -, h⟩
      cases h
      exact .text _
    . rcases map_eq_ok_iff.mp h with ⟨_, -, h⟩
      cases h
      exact .text _
    . rcases map_eq_ok_iff.mp h with ⟨_, -, h⟩
      cases h
      exact .text _
    . cases h
      exact .bool _
    . cases h
      exact .bool _
    . rcases bind_eq_ok_iff.mp h with ⟨⟨vs, rest'⟩, hvs, h⟩
      cases h
      exact .list (members_wellFormed hvalue hvs)
    . split at h
      . cases h
        exact .empty
      . rcases bind_eq_ok_iff.mp h with ⟨⟨t, rest'⟩, ht, h⟩
        cases h
        exact inlineFields_wellFormed hvalue .empty ht
    . split at h
      . next found => exact moment?_wellFormed (by rw [found, h])
      . next found => cases h; exact basedInteger?_wellFormed found
      . next found => exact decimal?_wellFormed (by rw [found, h])
      . next found => cases h; exact specialFloat?_wellFormed found
      . cases h

namespace Document

theorem openTable_wellFormed {d d' : Document} {k : Key} (hd : (Value.object d.root).WellFormed)
    (h : d.openTable k = .ok d') : (Value.object d'.root).WellFormed := by
  unfold openTable at h
  dsimp only at h
  split at h
  . cases h
  . rcases bind_eq_ok_iff.mp h with ⟨root, hroot, h⟩
    cases h
    apply change?_wellFormed _ hd (orMalformed_eq_ok_iff.mp hroot)
    intro t u ht heq
    cases heq
    exact ht

theorem appendTable_wellFormed {d d' : Document} {k : Key} (hd : (Value.object d.root).WellFormed)
    (h : d.appendTable k = .ok d') : (Value.object d'.root).WellFormed := by
  unfold appendTable at h
  dsimp only at h
  split at h
  . cases h
  . rcases bind_eq_ok_iff.mp h with ⟨root, hroot, h⟩
    cases h
    exact change?_wellFormed append?_wellFormed hd (orMalformed_eq_ok_iff.mp hroot)

theorem addPair_wellFormed {d d' : Document} {k : Key} {v : Value}
    (hd : (Value.object d.root).WellFormed) (hv : v.WellFormed) (h : d.addPair k v = .ok d')
    : (Value.object d'.root).WellFormed := by
  unfold addPair at h
  dsimp only at h
  split at h
  . cases h
  . split at h
    . cases h
    . rcases bind_eq_ok_iff.mp h with ⟨root, hroot, h⟩
      cases h
      exact change?_wellFormed (add?_wellFormed hv) hd (orMalformed_eq_ok_iff.mp hroot)

theorem statement_wellFormed {d d' : Document} {cs rest : List Char}
    (hd : (Value.object d.root).WellFormed) (h : d.statement cs = .ok (d', rest))
    : (Value.object d'.root).WellFormed := by
  have hsettle : (Value.object d.settle.root).WellFormed := hd
  unfold statement at h
  split at h
  . cases h
    exact hd
  . rcases bind_eq_ok_iff.mp h with ⟨⟨k, rest'⟩, -, h⟩
    rcases bind_eq_ok_iff.mp h with ⟨e, he, h⟩
    have hwell : (Value.object e.root).WellFormed := appendTable_wellFormed hsettle he
    split at h
    . cases h
      exact hwell
    . cases h
  . rcases bind_eq_ok_iff.mp h with ⟨⟨k, rest'⟩, -, h⟩
    rcases bind_eq_ok_iff.mp h with ⟨e, he, h⟩
    have hwell : (Value.object e.root).WellFormed := openTable_wellFormed hsettle he
    split at h
    . cases h
      exact hwell
    . cases h
  . rcases bind_eq_ok_iff.mp h with ⟨⟨⟨k, v⟩, rest'⟩, hv, h⟩
    rcases bind_eq_ok_iff.mp h with ⟨e, he, h⟩
    cases h
    exact addPair_wellFormed hd (pair_wellFormed (fun _ _ _ => value_wellFormed) hv) he

theorem statements_wellFormed {fuel : Nat} {d d' : Document} {cs : List Char}
    (hd : (Value.object d.root).WellFormed) (h : statements fuel d cs = .ok d')
    : (Value.object d'.root).WellFormed := by
  induction fuel generalizing d cs with
  | zero =>
    cases h
    exact hd
  | succ fuel ih =>
    unfold statements at h
    split at h
    . cases h
      exact hd
    . exact ih hd h
    . rcases bind_eq_ok_iff.mp h with ⟨⟨e, rest⟩, he, h⟩
      rcases bind_eq_ok_iff.mp h with ⟨after, -, h⟩
      have hwell : (Value.object e.root).WellFormed := statement_wellFormed hd he
      split at h
      . cases h
        exact hwell
      . exact ih hwell h
      . cases h

end Document

theorem read_wellFormed {cs : List Char} {fields : Fields} (h : read cs = .ok fields)
    : (Value.object fields).WellFormed := by
  unfold read at h
  rcases bind_eq_ok_iff.mp h with ⟨d, hd, h⟩
  cases h
  exact Document.statements_wellFormed .empty hd

end Toml

end CodeAudit
