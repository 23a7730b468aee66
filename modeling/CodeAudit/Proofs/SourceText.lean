import CodeAudit.Proofs.Definition
import CodeAudit.Proofs.Encoding

/-!
This module contains how the names in the outline of a script compare with the text that the parser saw.
The places of a node count bytes, and names are cut out by counting characters. The two agree up to the
first character of more than one byte.
-/

namespace CodeAudit.Script

open Text

namespace Tree

/--
The text between the places of a node, counted in bytes.
-/
def sourceText (code : List Char) (t : Tree) : Except Undecodable (List Char) :=
  decode (((encode code).drop t.start).take (t.stop - t.start))

/--
A node starts and ends between characters of the text.
-/
structure Placed (code : List Char) (t : Tree) : Prop where
  start : Boundary code t.start
  stop : Boundary code t.stop
  ordered : t.start ≤ t.stop

/--
All nodes of a tree start and end between characters of the text.
-/
def Fits (code : List Char) (t : Tree) : Prop :=
  ∀ node ∈ t.preorder, node.Placed code

instance (code : List Char) (t : Tree) : Decidable (t.Placed code) :=
  decidable_of_iff (Boundary code t.start ∧ Boundary code t.stop ∧ t.start ≤ t.stop)
    ⟨fun h => ⟨h.1, h.2.1, h.2.2⟩, fun h => ⟨h.start, h.stop, h.ordered⟩⟩

instance (code : List Char) (t : Tree) : Decidable (t.Fits code) :=
  inferInstanceAs (Decidable (∀ node ∈ t.preorder, node.Placed code))

/-! ### One node -/

theorem Placed.exists_parts {code : List Char} {t : Tree} (h : t.Placed code)
    : ∃ front middle back, code = front ++ middle ++ back ∧ (encode front).length = t.start ∧
        (encode (front ++ middle)).length = t.stop ∧ t.sourceText code = .ok middle := by
  rcases Text.exists_parts h.start h.stop h.ordered with ⟨front, middle, back, hcode, hstart, hstop⟩
  refine ⟨front, middle, back, hcode, hstart, hstop, ?_⟩
  unfold sourceText
  rw [← hstart, ← hstop, hcode]
  exact decode_part

theorem text_of_ascii {code front middle back : List Char} {t : Tree}
    (hcode : code = front ++ middle ++ back) (hstart : (encode front).length = t.start)
    (hstop : (encode (front ++ middle)).length = t.stop) (hascii : ∀ c ∈ front ++ middle, c.toNat < 0x80)
    : t.text code = middle := by
  have hfront : ∀ c ∈ front, c.toNat < 0x80 := by
    intro c hc
    exact hascii c (List.mem_append_left _ hc)
  rw [length_encode_of_ascii hfront] at hstart
  rw [length_encode_of_ascii hascii, List.length_append] at hstop
  unfold text
  rw [hcode, ← hstart, ← hstop, Nat.add_sub_cancel_left, List.append_assoc, List.drop_left,
    List.take_left]

/--
Up to the first character of more than one byte it makes no difference whether bytes or characters are
counted.
-/
theorem sourceText_of_ascii {code : List Char} {t : Tree} (h : t.Placed code)
    (hascii : ∀ b ∈ (encode code).take t.stop, b < 0x80) : t.sourceText code = .ok (t.text code) := by
  rcases h.exists_parts with ⟨front, middle, back, hcode, hstart, hstop, hsource⟩
  have hbytes : (encode code).take t.stop = encode (front ++ middle) := by
    rw [hcode, encode_append, ← hstop, List.take_left]
  rw [hbytes] at hascii
  rw [hsource, text_of_ascii hcode hstart hstop (ascii_of_encode hascii)]

/--
A last character of several bytes does no harm, because nothing comes after it.
-/
theorem sourceText_of_ascii_dropLast {code : List Char} {t : Tree} (h : t.Placed code)
    (hascii : ∀ c ∈ code.dropLast, c.toNat < 0x80) : t.sourceText code = .ok (t.text code) := by
  rcases h.exists_parts with ⟨front, middle, back, hcode, hstart, hstop, hsource⟩
  suffices htext : t.text code = middle by
    rw [hsource, htext]
  by_cases hback : back = []
  . have hlength := length_le_length_encode middle
    rw [hback, List.append_nil] at hcode
    rw [encode_append, List.length_append, hstart] at hstop
    unfold text
    by_cases hmiddle : middle = []
    . rw [hmiddle, encode_nil, List.length_nil] at hstop
      rw [hmiddle, show t.stop - t.start = 0 by omega, List.take_zero]
    . rw [hcode, List.dropLast_append_of_ne_nil hmiddle] at hascii
      rw [length_encode_of_ascii fun c hc => hascii c (List.mem_append_left _ hc)] at hstart
      rw [hcode, ← hstart, List.drop_left]
      exact List.take_of_length_le (by omega)
  . rw [hcode, List.dropLast_append_of_ne_nil hback] at hascii
    exact text_of_ascii hcode hstart hstop fun c hc => hascii c (List.mem_append_left _ hc)

/-! ### Nodes below a node -/

theorem mem_preorder_self (t : Tree) : t ∈ t.preorder := by
  cases t with
  | node => exact List.mem_cons_self

theorem mem_preorderAll_of_mem {ts : List Tree} {t : Tree} (h : t ∈ ts) : t ∈ preorderAll ts := by
  induction ts with
  | nil => cases h
  | cons first rest ih =>
    unfold preorderAll
    rw [List.mem_append]
    cases List.mem_cons.mp h with
    | inl heq => exact Or.inl (heq ▸ mem_preorder_self t)
    | inr hmem => exact Or.inr (ih hmem)

theorem mem_preorder_of_mem_children {t node : Tree} (h : node ∈ t.children) : node ∈ t.preorder := by
  cases t with
  | node kind start stop firstRow lastRow field children =>
    exact List.mem_cons_of_mem _ (mem_preorderAll_of_mem h)

mutual

theorem mem_preorder_trans {node below : Tree} (hbelow : below ∈ node.preorder)
    : (t : Tree) → node ∈ t.preorder → below ∈ t.preorder
  | .node kind start stop firstRow lastRow field children, h => by
    unfold preorder at h
    cases List.mem_cons.mp h with
    | inl heq => exact heq ▸ hbelow
    | inr hmem => exact List.mem_cons_of_mem _ (mem_preorderAll_trans hbelow children hmem)

theorem mem_preorderAll_trans {node below : Tree} (hbelow : below ∈ node.preorder)
    : (ts : List Tree) → node ∈ preorderAll ts → below ∈ preorderAll ts
  | [], h => by
    cases h
  | t :: rest, h => by
    unfold preorderAll at h ⊢
    rw [List.mem_append] at h ⊢
    cases h with
    | inl hfirst => exact Or.inl (mem_preorder_trans hbelow t hfirst)
    | inr hrest => exact Or.inr (mem_preorderAll_trans hbelow rest hrest)

end

theorem Fits.placed {code : List Char} {t node below : Tree} (h : t.Fits code)
    (hnode : node ∈ t.preorder) (hbelow : below ∈ node.preorder) : below.Placed code :=
  h below (mem_preorder_trans hbelow t hnode)

end Tree

theorem nameNode?_mem {t n : Tree} (h : nameNode? t = some n) : n ∈ t.preorder := by
  apply Tree.mem_preorder_of_mem_children
  unfold nameNode? at h
  split at h
  . exact List.mem_of_find?_eq_some h
  . exact List.mem_of_find?_eq_some h
  . exact List.mem_of_find?_eq_some h
  . exact List.mem_of_find?_eq_some h
  . cases h

theorem paramNode?_mem {t n : Tree} (h : paramNode? t = some n) : n ∈ t.preorder := by
  unfold paramNode? at h
  split at h
  . cases h
    exact Tree.mem_preorder_self t
  . rw [Option.filter_eq_some_iff] at h
    exact Tree.mem_preorder_of_mem_children (List.mem_of_find?_eq_some h.1)
  . exact Tree.mem_preorder_of_mem_children (List.mem_of_find?_eq_some h)
  . cases h

theorem paramNodes_mem {t n : Tree} (h : n ∈ paramNodes t) : n ∈ t.preorder := by
  have hbelow : ∀ n ∈ ((t.child? "parameters").elim [] Tree.children).filterMap paramNode?,
      n ∈ t.preorder := by
    intro n hn
    rcases List.mem_filterMap.mp hn with ⟨param, hparam, hname⟩
    cases hparams : t.child? "parameters" with
    | none =>
      rw [hparams] at hparam
      cases hparam
    | some params =>
      rw [hparams] at hparam
      have hfound : params ∈ t.preorder :=
        Tree.mem_preorder_of_mem_children (List.mem_of_find?_eq_some hparams)
      apply Tree.mem_preorder_trans _ t hfound
      exact Tree.mem_preorder_trans (paramNode?_mem hname) params (Tree.mem_preorder_of_mem_children hparam)
  unfold paramNodes at h
  split at h
  . exact hbelow n h
  . exact hbelow n h
  . cases h

/-! ### The names in an outline -/

/--
The names in an entry are the texts between the places of the nodes that name what a node defines, for
those nodes that count.
-/
structure Sourced (code : List Char) (counts : Tree → Prop) (node : Tree) (e : Entry) : Prop where
  name : ∃ n, nameNode? node = some n ∧ (counts n → n.sourceText code = .ok e.name.toList)
  params : List.Forall₂ (fun n param => counts n → n.sourceText code = .ok param.toList)
    (paramNodes node) e.params

theorem sourced_of_takesNames {code : List Char} {counts : Tree → Prop} {node : Tree} {e : Entry}
    (hplaced : ∀ below ∈ node.preorder, below.Placed code)
    (hcounts : ∀ n, n.Placed code → counts n → n.sourceText code = .ok (n.text code))
    (h : TakesNames code node e) : Sourced code counts node e := by
  have htext : ∀ n ∈ node.preorder, counts n →
      n.sourceText code = .ok (nodeText code n).toList := by
    intro n hn hcount
    unfold nodeText
    rw [String.toList_ofList]
    exact hcounts n (hplaced n hn) hcount
  rcases h with ⟨n, hname, hn, hparams⟩
  constructor
  . refine ⟨n, hname, ?_⟩
    rw [hn]
    exact htext n (nameNode?_mem hname)
  . rw [hparams, List.forall₂_map_right_iff, List.forall₂_same]
    intro param hparam
    exact htext param (paramNodes_mem hparam)

theorem entries_sourced {code : List Char} {counts : Tree → Prop} {t : Tree} (hfits : t.Fits code)
    (hcounts : ∀ n, n.Placed code → counts n → n.sourceText code = .ok (n.text code))
    : List.Forall₂ (Sourced code counts) (definitions t) (entries code t) := by
  have hmem : ∀ node ∈ definitions t, node ∈ t.preorder := fun node hnode =>
    List.mem_of_mem_filter hnode
  refine ((List.forall₂_and_left _ _).mpr ⟨hmem, entries_of_definitions code t⟩).imp ?_
  rintro node e ⟨hnode, hnames⟩
  exact sourced_of_takesNames (fun below hbelow => hfits.placed hnode hbelow) hcounts hnames

/-! ### Texts with characters of several bytes -/

theorem exists_first_of_not_ascii {code : List Char} (h : ¬ ∀ c ∈ code.dropLast, c.toNat < 0x80)
    : ∃ front c d back, code = front ++ c :: d :: back ∧ (∀ c ∈ front, c.toNat < 0x80) ∧
        ¬ c.toNat < 0x80 := by
  induction code with
  | nil => simp at h
  | cons c rest ih =>
    cases rest with
    | nil => simp at h
    | cons d back =>
      by_cases hc : c.toNat < 0x80
      . rw [List.dropLast_cons_cons, List.forall_mem_cons] at h
        rcases ih fun hrest => h ⟨hc, hrest⟩ with ⟨front, c', d', back', heq, hfront, hc'⟩
        refine ⟨c :: front, c', d', back', by rw [heq]; rfl, ?_, hc'⟩
        rw [List.forall_mem_cons]
        exact ⟨hc, hfront⟩
      . exact ⟨[], c, d, back, rfl, by simp, hc⟩

/--
The name of a variable.
-/
def identifier (start stop : Nat) : Tree :=
  .node "identifier" start stop 0 0 (some "name") []

/--
A variable without a value.
-/
def declarator (start stop : Nat) : Tree :=
  .node "variable_declarator" start stop 0 0 none [identifier start stop]

theorem declarator_fits {code : List Char} {start stop : Nat} (hstart : Boundary code start)
    (hstop : Boundary code stop) (hle : start ≤ stop) : (declarator start stop).Fits code := by
  intro node hnode
  have hplaces : node.start = start ∧ node.stop = stop := by
    simp only [declarator, identifier, Tree.preorder, Tree.preorderAll, List.append_nil, List.mem_cons,
      List.not_mem_nil, or_false] at hnode
    rcases hnode with rfl | rfl
    . exact ⟨rfl, rfl⟩
    . exact ⟨rfl, rfl⟩
  constructor
  . rw [hplaces.1]
    exact hstart
  . rw [hplaces.2]
    exact hstop
  . rw [hplaces.1, hplaces.2]
    exact hle

theorem declarator_sourced {code : List Char} {start stop : Nat}
    (h : List.Forall₂ (Sourced code fun _ => True) (definitions (declarator start stop))
      (entries code (declarator start stop)))
    : (identifier start stop).sourceText code = .ok ((identifier start stop).text code) := by
  cases h with
  | cons hhead _ =>
    rcases hhead.name with ⟨n, hn, hsource⟩
    cases hn
    have hname : (identifier start stop).sourceText code =
        .ok (nodeText code (identifier start stop)).toList := hsource trivial
    unfold nodeText at hname
    rw [String.toList_ofList] at hname
    exact hname

-- As many characters are cut out as the first one has bytes, and there is a second one to be cut.
theorem text_of_first {front back : List Char} {c d : Char} {t : Tree}
    (hstart : t.start = (encode front).length) (hstop : t.stop = (encode (front ++ [c])).length)
    (hfront : ∀ c ∈ front, c.toNat < 0x80) (hc : ¬ c.toNat < 0x80)
    : ∃ more, t.text (front ++ c :: d :: back) = c :: d :: more := by
  have hpos := c.utf8Size_pos
  have hone := mt (utf8Size_eq_one_iff c).mp hc
  rw [encode_append, List.length_append, ← hstart, encode_cons, encode_nil, List.append_nil,
    length_encodeChar] at hstop
  rw [length_encode_of_ascii hfront] at hstart
  have hcount : t.stop - t.start = c.utf8Size - 2 + 2 := by omega
  refine ⟨back.take (c.utf8Size - 2), ?_⟩
  unfold Tree.text
  rw [hcount, hstart, List.drop_left, List.take_succ_cons, List.take_succ_cons]

theorem declarator_not_sourced {front back : List Char} {c d : Char}
    (hfront : ∀ c ∈ front, c.toNat < 0x80) (hc : ¬ c.toNat < 0x80)
    : ∃ t, t.Fits (front ++ c :: d :: back) ∧
        ¬ List.Forall₂ (Sourced (front ++ c :: d :: back) fun _ => True) (definitions t)
          (entries (front ++ c :: d :: back) t) := by
  have hsplit : front ++ c :: d :: back = front ++ [c] ++ d :: back := by simp
  refine ⟨declarator (encode front).length (encode (front ++ [c])).length, ?_, ?_⟩
  . apply declarator_fits
    . exact ⟨front, c :: d :: back, rfl, rfl⟩
    . exact ⟨front ++ [c], d :: back, hsplit, rfl⟩
    . rw [encode_append, List.length_append]
      exact Nat.le_add_right _ _
  . intro hall
    have hwrong := declarator_sourced hall
    have hright : (identifier (encode front).length (encode (front ++ [c])).length).sourceText
        (front ++ c :: d :: back) = .ok [c] := by
      rw [hsplit]
      exact decode_part
    have hcut : ∃ more, (identifier (encode front).length (encode (front ++ [c])).length).text
        (front ++ c :: d :: back) = c :: d :: more := text_of_first rfl rfl hfront hc
    rcases hcut with ⟨more, hmore⟩
    rw [hright, hmore] at hwrong
    cases hwrong

/--
The names in the outline of a script are those of the text as far as all bytes before the end of a name are
characters of their own. They are so for every tree that fits the text exactly if no character but perhaps
the last one has more than one byte.
-/
theorem outline_names_sourced (code : List Char)
    : (∀ language path p t, p.root = some t → t.Fits code →
        List.Forall₂ (Sourced code fun n => ∀ b ∈ (encode code).take n.stop, b < 0x80)
          (definitions t) (outline language code path p).entries) ∧
      ((∀ language path p t, p.root = some t → t.Fits code →
          List.Forall₂ (Sourced code fun _ => True)
            (definitions t) (outline language code path p).entries) ↔
        ∀ c ∈ code.dropLast, c.toNat < 0x80) := by
  have hentries : ∀ language path p t, p.root = some t →
      (outline language code path p).entries = entries code t := by
    intro language path p t hroot
    unfold outline
    rw [hroot]
  refine ⟨?_, ?_, ?_⟩
  . intro language path p t hroot hfits
    rw [hentries language path p t hroot]
    exact entries_sourced hfits fun n hplaced hascii => Tree.sourceText_of_ascii hplaced hascii
  . intro h
    by_contra hascii
    rcases exists_first_of_not_ascii hascii with ⟨front, c, d, back, hcode, hfront, hc⟩
    rcases declarator_not_sourced hfront hc with ⟨t, hfits, hnot⟩
    rw [← hcode] at hfits hnot
    exact hnot (h .javaScript "" { root := some t } t rfl hfits)
  . intro hascii language path p t hroot hfits
    rw [hentries language path p t hroot]
    exact entries_sourced hfits fun n hplaced _ => Tree.sourceText_of_ascii_dropLast hplaced hascii

/--
A function with one parameter that starts after so many bytes.
-/
def functionTree (start : Nat) : Tree :=
  .node "function_declaration" start (start + 16) 0 0 none
    [.node "function" start (start + 8) 0 0 none [],
      .node "identifier" (start + 9) (start + 10) 0 0 (some "name") [],
      .node "formal_parameters" (start + 10) (start + 13) 0 0 (some "parameters")
        [.node "(" (start + 10) (start + 11) 0 0 none [],
          .node "identifier" (start + 11) (start + 12) 0 0 none [],
          .node ")" (start + 12) (start + 13) 0 0 none []],
      .node "statement_block" (start + 14) (start + 16) 0 0 (some "body")
        [.node "\x7b" (start + 14) (start + 15) 0 0 none [],
          .node "\x7d" (start + 15) (start + 16) 0 0 none []]]

-- The function stands before a comment with a letter of two bytes.
def notedCode : List Char := "function f(a) \x7b\x7d /*é*/".toList

def notedTree : Tree :=
  .node "program" 0 23 0 0 none [functionTree 0, .node "comment" 17 23 0 0 none []]

theorem outline_names_sourced_notedCode
    : notedTree.Fits notedCode ∧
        (∀ node ∈ definitions notedTree, ∀ n ∈ (nameNode? node).toList ++ paramNodes node,
          ∀ b ∈ (encode notedCode).take n.stop, b < 0x80) ∧
        List.Forall₂ (Sourced notedCode fun n => ∀ b ∈ (encode notedCode).take n.stop, b < 0x80)
          (definitions notedTree)
          (outline .typeScript notedCode "f.ts" { root := some notedTree }).entries := by
  have hfits : notedTree.Fits notedCode := by decide +kernel
  refine ⟨hfits, by decide +kernel, ?_⟩
  exact (outline_names_sourced notedCode).1 .typeScript "f.ts" { root := some notedTree } notedTree rfl
    hfits

-- The function stands after the comment.
def titledCode : List Char := "/*é*/ function f(a) \x7b\x7d".toList

def titledTree : Tree :=
  .node "program" 0 23 0 0 none [.node "comment" 0 6 0 0 none [], functionTree 7]

/--
After a letter of two bytes the names are those of the characters one further on.
-/
theorem outline_misreads_titledCode
    : titledTree.Fits titledCode ∧
        (definitions titledTree).map (fun node =>
          ((nameNode? node).map (Tree.sourceText titledCode),
            (paramNodes node).map (Tree.sourceText titledCode))) =
          [(some (.ok ['f']), [.ok ['a']])] ∧
        (outline .javaScript titledCode "f.js" { root := some titledTree }).entries.map
            (fun e => (e.name, e.params)) =
          [("(", [")"])] := by
  decide +kernel

end CodeAudit.Script
