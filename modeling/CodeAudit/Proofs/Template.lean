import CodeAudit.Format.Template
import Mathlib.Data.List.Basic
import Mathlib.Data.List.TakeWhile

/-!
This module contains the laws of templates whose fields are plain: a name in braces and nothing else. Such a template
is filled in once, from left to right, and what is put in for a field is not looked at again.
-/

namespace CodeAudit.Format

/--
A template with plain fields, which may be named in any way: the text before each field, the fields, and the text at
the end.
-/
structure Layout (ν : Type) where
  parts : List (List Char × ν)
  ending : List Char

/--
The characters that end the name of a field or start something else in it.
-/
def nameMarks : List Char := ['\x7b', '\x7d', '[', ':', '!', '.']

/--
A name that is nothing but a name: it has no marks in it and is no number.
-/
structure PlainName (name : List Char) : Prop where
  nonempty : name ≠ []
  unmarked : ∀ c ∈ name, c ∉ nameMarks
  noNumber : nameNumber? name = .ok none

namespace Layout

variable {ν : Type}

/--
A layout in which braces stand only around fields.
-/
structure Plain (l : Layout ν) : Prop where
  parts : ∀ part ∈ l.parts, ∀ c ∈ part.1, isBrace c = false
  ending : ∀ c ∈ l.ending, isBrace c = false

/--
The text of a template.
-/
def written (name : ν → String) (l : Layout ν) : List Char :=
  l.parts.flatMap (fun part => part.1 ++ '\x7b' :: (name part.2).toList ++ ['\x7d']) ++ l.ending

/--
The text of a template with texts in place of the fields.
-/
def filled (shown : ν → String) (l : Layout ν) : List Char :=
  l.parts.flatMap (fun part => part.1 ++ (shown part.2).toList) ++ l.ending

/--
The pieces of a template.
-/
def pieces (name : ν → String) (l : Layout ν) : List Piece :=
  l.parts.flatMap (fun part => [.literal part.1, .field { name := (name part.2).toList }]) ++
    if l.ending.isEmpty then [] else [.literal l.ending]

theorem written_cons (name : ν → String) (text : List Char) (n : ν) (parts : List (List Char × ν))
    (ending : List Char)
    : written name ⟨(text, n) :: parts, ending⟩ =
        text ++ '\x7b' :: ((name n).toList ++ '\x7d' :: written name ⟨parts, ending⟩) := by
  simp [written]

theorem filled_cons (shown : ν → String) (text : List Char) (n : ν) (parts : List (List Char × ν))
    (ending : List Char)
    : filled shown ⟨(text, n) :: parts, ending⟩ =
        text ++ ((shown n).toList ++ filled shown ⟨parts, ending⟩) := by
  simp [filled]

theorem pieces_cons (name : ν → String) (text : List Char) (n : ν) (parts : List (List Char × ν))
    (ending : List Char)
    : pieces name ⟨(text, n) :: parts, ending⟩ =
        .literal text :: .field { name := (name n).toList } :: pieces name ⟨parts, ending⟩ := by
  simp [pieces]

theorem Plain.tail {part : List Char × ν} {parts : List (List Char × ν)} {ending : List Char}
    (h : Plain ⟨part :: parts, ending⟩) : Plain ⟨parts, ending⟩ :=
  ⟨fun other hother => h.parts other (List.mem_cons_of_mem part hother), h.ending⟩

theorem filled_congr {shown shown' : ν → String} {l : Layout ν} (h : ∀ n ∈ l.parts.map (·.2), shown n = shown' n)
    : l.filled shown = l.filled shown' := by
  unfold filled
  congr 1
  apply List.flatMap_congr
  intro part hpart
  rw [h part.2 (List.mem_map_of_mem hpart)]

/--
What stands in the one place of a field can be told from the filled template, if the other fields are known.
-/
theorem filled_inj [DecidableEq ν] {shown shown' : ν → String} {n : ν} (hothers : ∀ k, k ≠ n → shown k = shown' k)
    {l : Layout ν} (hone : (l.parts.map (·.2)).count n = 1) (h : l.filled shown = l.filled shown')
    : shown n = shown' n := by
  rcases l with ⟨parts, ending⟩
  induction parts with
  | nil => simp at hone
  | cons part parts ih =>
    rcases part with ⟨text, k⟩
    rw [filled_cons, filled_cons, List.append_cancel_left_eq] at h
    rw [List.map_cons, List.count_cons] at hone
    -- Before its place the two texts agree, and behind it as well, since it has no second one.
    by_cases hk : k = n
    . rw [hk, beq_self_eq_true, if_pos rfl, Nat.add_right_cancel_iff, List.count_eq_zero] at hone
      have hrest : filled shown ⟨parts, ending⟩ = filled shown' ⟨parts, ending⟩ := by
        apply filled_congr
        intro other hother
        apply hothers
        intro heq
        rw [heq] at hother
        exact hone hother
      rw [hk, hrest, List.append_cancel_right_eq] at h
      exact String.toList_injective h
    . rw [if_neg (by simpa using hk)] at hone
      rw [hothers k hk, List.append_cancel_left_eq] at h
      exact ih hone h

/-! ### Layouts of texts -/

/--
The layout of a text whose fields all have known names.
-/
def read? (ofName? : List Char → Option ν) (cs : List Char) : Option (Layout ν) :=
  go [] none cs
where
  /-- The text before the next field and, inside braces, the name so far, with the last character first. -/
  go : List Char → Option (List Char) → List Char → Option (Layout ν)
    | text, none, [] => some ⟨[], text.reverse⟩
    | _, some _, [] => none
    | text, none, c :: cs =>
      if c == '\x7b' then go text (some []) cs
      else if c == '\x7d' then none
      else go (c :: text) none cs
    | text, some name, c :: cs =>
      if c == '\x7d' then
        (ofName? name.reverse).bind fun n =>
          (go [] none cs).map fun l => { l with parts := (text.reverse, n) :: l.parts }
      else go text (some (c :: name)) cs

theorem read?_go_eq_some {ofName? : List Char → Option ν} {name : ν → String}
    (hname : ∀ cs n, ofName? cs = some n → (name n).toList = cs) {text : List Char} {inside : Option (List Char)}
    {cs : List Char} {l : Layout ν} (htext : ∀ c ∈ text, isBrace c = false)
    (h : read?.go ofName? text inside cs = some l)
    : l.Plain ∧ l.written name = text.reverse ++ inside.elim [] (fun cs => '\x7b' :: cs.reverse) ++ cs := by
  fun_induction read?.go ofName? text inside cs generalizing l with
  | case1 text =>
    cases h
    refine ⟨⟨by simp, fun c hc => htext c (List.mem_reverse.mp hc)⟩, ?_⟩
    simp [written]
  | case2 => cases h
  | case3 text c cs hc ih =>
    rw [beq_iff_eq] at hc
    have hl := ih htext h
    simpa [hc] using hl
  | case4 => cases h
  | case5 text c cs hopen hclose ih =>
    have hc : isBrace c = false := by simp [isBrace, hopen, hclose]
    have hl := ih (List.forall_mem_cons.mpr ⟨hc, htext⟩) h
    simpa using hl
  | case6 text name' c cs hc ih =>
    rw [beq_iff_eq] at hc
    rcases Option.bind_eq_some_iff.mp h with ⟨n, hn, h⟩
    rcases Option.map_eq_some_iff.mp h with ⟨rest, hrest, rfl⟩
    rcases ih (List.forall_mem_nil _) hrest with ⟨hplain, hwritten⟩
    refine ⟨⟨?_, hplain.ending⟩, ?_⟩
    . rw [List.forall_mem_cons]
      exact ⟨fun c hc => htext c (List.mem_reverse.mp hc), hplain.parts⟩
    . rw [written_cons, hwritten, hname _ _ hn, hc]
      simp
  | case7 text name' c cs hc ih =>
    have hl := ih htext h
    simpa using hl

/--
The layout that is read is the one that is written.
-/
theorem read?_eq_some {ofName? : List Char → Option ν} {name : ν → String}
    (hname : ∀ cs n, ofName? cs = some n → (name n).toList = cs) {cs : List Char} {l : Layout ν}
    (h : read? ofName? cs = some l) : l.Plain ∧ l.written name = cs := by
  simpa using read?_go_eq_some hname (List.forall_mem_nil _) h

end Layout

/-! ### Reading -/

theorem fieldName_go_plain {name : List Char} (h : ∀ c ∈ name, c ∉ nameMarks) (acc rest : List Char)
    : fieldName.go false acc (name ++ '\x7d' :: rest) = .ok (acc.reverse ++ name, '\x7d', rest) := by
  induction name generalizing acc with
  | nil => simp [fieldName.go]
  | cons c name ih =>
    have hc := h c List.mem_cons_self
    simp only [nameMarks, List.mem_cons, List.not_mem_nil, or_false, not_or] at hc
    rw [List.cons_append]
    unfold fieldName.go
    simp only [Bool.false_eq_true, if_false, beq_iff_eq, hc, Bool.or_eq_true, or_self]
    rw [ih fun d hd => h d (List.mem_cons_of_mem c hd)]
    simp

theorem field_plain {name : List Char} (h : PlainName name) (rest : List Char)
    : field (name ++ '\x7d' :: rest) = .ok ({ name }, rest) := by
  unfold field fieldName
  rw [fieldName_go_plain h.unmarked]
  rfl

theorem takeWhile_plain {text : List Char} (h : ∀ c ∈ text, isBrace c = false) {c : Char} (hc : isBrace c = true)
    (rest : List Char) : (text ++ c :: rest).takeWhile (!isBrace ·) = text := by
  rw [List.takeWhile_append_of_pos]
  . simp [hc]
  . intro d hd
    simp [h d hd]

/--
Each field takes one step, so the length of the text is enough fuel.
-/
theorem pieces_go_written {ν : Type} {name : ν → String} (hname : ∀ n, PlainName (name n).toList) {l : Layout ν}
    (hl : l.Plain) {fuel : Nat} (hfuel : (l.written name).length < fuel)
    : pieces.go fuel (l.written name) = l.pieces name := by
  rcases l with ⟨parts, ending⟩
  induction parts generalizing fuel with
  | nil =>
    cases fuel with
    | zero => omega
    | succ fuel =>
      have hall : ending.takeWhile (!isBrace ·) = ending := by
        rw [List.takeWhile_eq_self_iff]
        intro c hc
        simp [hl.ending c hc]
      unfold pieces.go
      simp only [Layout.written, Layout.pieces, List.flatMap_nil, List.nil_append, hall, List.drop_length]
  | cons part parts ih =>
    rcases part with ⟨text, n⟩
    cases fuel with
    | zero => omega
    | succ fuel =>
      have htext := hl.parts (text, n) List.mem_cons_self
      have hrest : (Layout.written name ⟨parts, ending⟩).length < fuel := by
        rw [Layout.written_cons] at hfuel
        simp only [List.length_append, List.length_cons] at hfuel
        omega
      rw [Layout.written_cons, Layout.pieces_cons]
      unfold pieces.go
      dsimp only
      rw [takeWhile_plain htext (by decide), List.drop_left]
      -- The name is not empty and starts with no brace, so the brace before it opens a field.
      cases hn : (name n).toList with
      | nil => exact absurd hn (hname n).nonempty
      | cons d tail =>
        have hd := (hname n).unmarked d (by rw [hn]; exact List.mem_cons_self)
        have hfield := field_plain (hname n) (Layout.written name ⟨parts, ending⟩)
        rw [hn] at hfield
        simp only [nameMarks, List.mem_cons, List.not_mem_nil, or_false, not_or] at hd
        have hopen : ('\x7b' == d) = false := by
          rw [beq_eq_false_iff_ne]
          exact fun h => hd.1 h.symm
        rw [List.cons_append] at hfield ⊢
        dsimp only
        rw [hopen, hfield]
        dsimp only
        rw [if_neg (by decide), if_neg (by decide), ih hl.tail hrest]

/-! ### Filling in -/

theorem lookup_plain {values : Table Value} {name : String} (h : PlainName name.toList) {v : Value}
    (hv : values.get? name = some v) : lookup values name.toList = .ok v := by
  have hall : name.toList.takeWhile (fun c => c != '.' && c != '[') = name.toList := by
    rw [List.takeWhile_eq_self_iff]
    intro c hc
    have hmark := h.unmarked c hc
    simp only [nameMarks, List.mem_cons, List.not_mem_nil, or_false, not_or] at hmark
    simp [hmark]
  unfold lookup
  dsimp only
  rw [hall, h.noNumber, if_neg (by simpa using h.nonempty), String.ofList_toList, List.drop_length]
  dsimp only [bind, Except.bind, pure, Except.pure]
  rw [hv]
  rfl

theorem fill_literal (values : Table Value) (depth : Nat) (text : List Char) (rest : List Piece)
    : fill values (depth + 1) (.literal text :: rest) = (fill values (depth + 1) rest).map (text ++ ·) := by
  rw [fill]
  cases fill values (depth + 1) rest <;> rfl

theorem fill_field {values : Table Value} {name : List Char} {v : Value} (h : lookup values name = .ok v)
    (depth : Nat) (rest : List Piece)
    : fill values (depth + 1) (.field { name } :: rest) =
        (fill values (depth + 1) rest).map (v.display.toList ++ ·) := by
  rw [fill]
  dsimp only
  rw [h]
  cases fill values (depth + 1) rest <;> rfl

/--
A template with plain fields is filled in with the values as they are displayed.
-/
theorem render_written {ν : Type} {name shown : ν → String} (hname : ∀ n, PlainName (name n).toList)
    {values : Table Value} (hvalue : ∀ n, ∃ v, values.get? (name n) = some v ∧ v.display = shown n) {l : Layout ν}
    (hl : l.Plain) : render (l.written name) values = .ok (l.filled shown) := by
  unfold render Format.pieces
  rw [pieces_go_written hname hl (by omega)]
  rcases l with ⟨parts, ending⟩
  induction parts with
  | nil =>
    unfold Layout.pieces Layout.filled
    rw [List.flatMap_nil, List.nil_append, List.flatMap_nil, List.nil_append]
    split
    . next h =>
      rw [List.isEmpty_iff] at h
      rw [h, fill]
    . rw [fill_literal, fill]
      simp [Except.map]
  | cons part parts ih =>
    rcases part with ⟨text, n⟩
    rcases hvalue n with ⟨v, hv, hshown⟩
    rw [Layout.pieces_cons, fill_literal, fill_field (lookup_plain (hname n) hv), ih hl.tail, Layout.filled_cons,
      hshown]
    rfl

-- Braces, formats and names of fields in a value are not read.
example
    : render "a \x7bx\x7d b \x7by\x7d".toList [("x", .text "\x7by!r:>9\x7d \x7b\x7b"), ("y", .int (-7))] =
        .ok "a \x7by!r:>9\x7d \x7b\x7b b -7".toList := by
  cbv

end CodeAudit.Format
