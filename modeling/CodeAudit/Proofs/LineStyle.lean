import CodeAudit.Proofs.Encoding
import CodeAudit.Proofs.TextEnd
import CodeAudit.Syntax.File
import Mathlib.Data.List.Forall2

/-!
This module contains what the line ends of a source text can change in its outline. A text whose lines end in
a carriage return and a line feed is scanned with one line feed more than a text whose lines end in line feeds
alone; in a file both are the same text.
-/

namespace CodeAudit

namespace Text

/--
The text with a carriage return before every line feed.
-/
def withReturns (cs : List Char) : List Char :=
  cs.flatMap fun c => if c = '\n' then ['\r', '\n'] else [c]

theorem withReturns_nil : withReturns [] = [] := rfl

theorem withReturns_lineFeed (cs : List Char) : withReturns ('\n' :: cs) = '\r' :: '\n' :: withReturns cs := rfl

theorem withReturns_cons {c : Char} (hc : c ≠ '\n') (cs : List Char)
    : withReturns (c :: cs) = c :: withReturns cs := by
  simp [withReturns, hc]

theorem withReturns_append (cs ds : List Char) : withReturns (cs ++ ds) = withReturns cs ++ withReturns ds :=
  List.flatMap_append

theorem unifyLineEnds_cons {c : Char} (hc : c ≠ '\r') (cs : List Char)
    : unifyLineEnds (c :: cs) = c :: unifyLineEnds cs := by
  rw [unifyLineEnds]
  . intro rest heq
    exact absurd heq hc
  . exact hc

theorem unifyLineEnds_eq_self {cs : List Char} (h : '\r' ∉ cs) : unifyLineEnds cs = cs := by
  induction cs with
  | nil => rfl
  | cons c cs ih =>
    rw [List.mem_cons, not_or] at h
    rw [unifyLineEnds_cons (Ne.symm h.1), ih h.2]

theorem unifyLineEnds_withReturns {cs : List Char} (h : '\r' ∉ cs) : unifyLineEnds (withReturns cs) = cs := by
  induction cs with
  | nil => rfl
  | cons c cs ih =>
    rw [List.mem_cons, not_or] at h
    by_cases hc : c = '\n'
    . rw [hc, withReturns_lineFeed, unifyLineEnds, ih h.2]
    . rw [withReturns_cons hc, unifyLineEnds_cons (Ne.symm h.1), ih h.2]

theorem filter_withReturns {p : Char → Bool} (hreturn : p '\r' = false) (cs : List Char)
    : (withReturns cs).filter p = cs.filter p := by
  induction cs with
  | nil => rfl
  | cons c cs ih =>
    by_cases hc : c = '\n'
    . rw [hc, withReturns_lineFeed, List.filter_cons_of_neg (by simp [hreturn]), List.filter_cons, ih,
        List.filter_cons]
    . rw [withReturns_cons hc, List.filter_cons, ih, List.filter_cons]

theorem mem_withReturns {c : Char} (hc : c ≠ '\r') (cs : List Char) : c ∈ withReturns cs ↔ c ∈ cs := by
  induction cs with
  | nil => rfl
  | cons d cs ih =>
    by_cases hd : d = '\n'
    . rw [hd, withReturns_lineFeed, List.mem_cons, List.mem_cons, List.mem_cons, ih]
      simp [hc]
    . rw [withReturns_cons hd, List.mem_cons, List.mem_cons, ih]

/-! ### Lines -/

theorem strip_append_return (line : List Char) : strip (line ++ ['\r']) = strip line := by
  unfold strip stripStart
  rw [List.dropWhile_append]
  split
  . next h =>
    rw [List.isEmpty_iff.mp h]
    rfl
  . simp [stripEnd, isBlank]

theorem lines_lineFeed (cs : List Char) : lines ('\n' :: cs) = [] :: lines cs := by
  unfold lines List.splitOn
  rw [List.splitOnP_cons_eq_if_modifyHead, if_pos (beq_self_eq_true _)]

theorem lines_cons {c : Char} (hc : c ≠ '\n') (cs : List Char)
    : lines (c :: cs) = (lines cs).modifyHead (c :: ·) := by
  unfold lines List.splitOn
  rw [List.splitOnP_cons_eq_if_modifyHead, if_neg (by simpa using hc)]

theorem lines_withReturns (cs : List Char)
    : List.Forall₂ (fun line' line => line' = line ∨ line' = line ++ ['\r']) (lines (withReturns cs)) (lines cs) := by
  induction cs with
  | nil => exact .cons (Or.inl rfl) .nil
  | cons c cs ih =>
    by_cases hc : c = '\n'
    . rw [hc, withReturns_lineFeed, lines_cons (by decide), lines_lineFeed, lines_lineFeed]
      exact .cons (Or.inr rfl) ih
    . rw [withReturns_cons hc, lines_cons hc, lines_cons hc]
      generalize lines (withReturns cs) = ls' at ih
      generalize lines cs = ls at ih
      cases ih with
      | nil => exact .nil
      | cons hline hlines =>
        refine .cons (hline.imp ?_ ?_) hlines
        . exact congrArg (c :: ·)
        . exact congrArg (c :: ·)

theorem map_strip_lines_withReturns (cs : List Char)
    : (lines (withReturns cs)).map strip = (lines cs).map strip := by
  rw [← List.forall₂_eq_eq_eq, List.forall₂_map_left_iff, List.forall₂_map_right_iff]
  apply (lines_withReturns cs).imp
  rintro line' line (rfl | rfl)
  . rfl
  . exact strip_append_return line

end Text

namespace Syntax

open Text

theorem lineCounts_congr {cs ds : List Char} (h : (lines cs).map strip = (lines ds).map strip)
    : lineCounts cs = lineCounts ds := by
  have hfilter : ∀ p : List Char → Bool, ((lines cs).filter fun line => p (strip line)).length =
      ((lines ds).filter fun line => p (strip line)).length := by
    intro p
    have hlength := congrArg (fun stripped => (stripped.filter p).length) h
    simpa only [List.filter_map, List.length_map, Function.comp_def] using hlength
  have htotal : (lines cs).length = (lines ds).length := by
    simpa using congrArg List.length h
  have hblank := hfilter List.isEmpty
  have hcomment := hfilter fun stripped => stripped.head? == some '#'
  unfold lineCounts isBlankLine
  dsimp only
  rw [htotal, hblank, hcomment]

/-! ### Tokens -/

namespace Lexer

theorem physicalText_of_lineFeed {front : List Char} (h : '\r' ∉ front)
    : physicalText (front ++ ['\n']) = front ++ ['\n'] := by
  have hcode : '\r' ∉ front ++ ['\n'] := by simpa using h
  unfold physicalText
  rw [unifyLineEnds_eq_self hcode, List.reverse_append, List.reverse_singleton, List.singleton_append]
  dsimp only
  split
  . next rest heq =>
    have hmem : '\r' ∈ front.reverse := by
      rw [(List.cons.inj heq).2]
      exact List.mem_cons_self
    exact absurd (List.mem_reverse.mp hmem) h
  . rfl
  . rfl
  . next hnot _ => exact absurd rfl (hnot _)

theorem physicalText_of_open {front : List Char} {c : Char} (hc : c ≠ '\n' ∧ c ≠ '\r')
    : physicalText (front ++ [c]) = unifyLineEnds (front ++ [c]) ++ ['\n'] := by
  unfold physicalText
  rw [List.reverse_append, List.reverse_singleton, List.singleton_append]
  dsimp only
  split
  . rfl
  . next heq => exact absurd (List.cons.inj heq).1 hc.1
  . next heq => exact absurd (List.cons.inj heq).1 hc.2
  . rfl

theorem physicalText_withReturns {code : List Char} (h : '\r' ∉ code)
    : physicalText (withReturns code) = code ++ ['\n'] := by
  have hunified := unifyLineEnds_withReturns h
  rcases List.eq_nil_or_concat' code with rfl | ⟨front, c, rfl⟩
  . rfl
  . rw [withReturns_append] at hunified ⊢
    by_cases hc : c = '\n'
    . subst hc
      unfold physicalText
      rw [hunified, List.reverse_append]
      rfl
    . have hreturn : c ≠ '\r' := by
        rintro rfl
        simp at h
      rw [withReturns_cons hc, withReturns_nil] at hunified ⊢
      rw [physicalText_of_open ⟨hc, hreturn⟩, hunified]

theorem tokens?_withReturns {code : List Char} (h : '\r' ∉ code)
    : (tokens? (withReturns code)).map (List.map Token.unplaced) =
          (tokens? code).map (List.map Token.unplaced) ∨
        (['\\', '\n'] <:+ code ∧ tokens? code = none) := by
  unfold tokens?
  rw [physicalText_withReturns h]
  simp only [List.contains_iff_mem, mem_withReturns (by decide : '\x00' ≠ '\r')]
  split
  . exact Or.inl rfl
  . rcases List.eq_nil_or_concat' code with rfl | ⟨front, c, rfl⟩
    . exact Or.inl rfl
    . by_cases hc : c = '\n'
      . subst hc
        have hfront : '\r' ∉ front := by
          intro hmem
          exact h (List.mem_append_left _ hmem)
        rw [physicalText_of_lineFeed hfront]
        exact tokensFrom_start_append (terminated_append_lineFeed front)
      . have hreturn : c ≠ '\r' := by
          rintro rfl
          simp at h
        left
        rw [physicalText_of_open ⟨hc, hreturn⟩, unifyLineEnds_eq_self h]

end Lexer

theorem Parser.run_congr {α : Type} (p : Parser α) {c c' : Cursor} (h : c.unplaced = c'.unplaced)
    : (p.run c).map Prod.fst = (p.run c').map Prod.fst := by
  have hvalue : ∀ c : Cursor, (p.run c.unplaced).map Prod.fst = (p.run c).map Prod.fst := by
    intro c
    rw [p.unplaced, Option.map_map]
    rfl
  rw [← hvalue c, h, hvalue c']

theorem parse?_eq (text : List Char)
    : parse? text = (tokens? text).bind fun tokens =>
        ((Grammar.module_ (Nested.ofDepth (maxDepth text))).run ⟨tokens, 0⟩).map Prod.fst := by
  unfold parse?
  apply Option.bind_congr
  intro tokens _
  cases (Grammar.module_ (Nested.ofDepth (maxDepth text))).run ⟨tokens, 0⟩ with
  | none => rfl
  | some result => rfl

theorem parse?_congr {text text' : List Char} (hdepth : maxDepth text = maxDepth text')
    (htokens : (tokens? text).map (List.map Token.unplaced) = (tokens? text').map (List.map Token.unplaced))
    : parse? text = parse? text' := by
  rw [parse?_eq, parse?_eq, hdepth]
  cases ht : tokens? text with
  | none =>
    rw [ht] at htokens
    rw [Option.map_eq_none_iff.mp htokens.symm]
  | some ts =>
    rw [ht] at htokens
    rcases Option.map_eq_some_iff.mp htokens.symm with ⟨ts', ht', hts⟩
    rw [ht']
    apply Parser.run_congr
    unfold Cursor.unplaced
    rw [hts]

theorem maxDepth_withReturns (code : List Char) : maxDepth (withReturns code) = maxDepth code := by
  unfold maxDepth
  rw [filter_withReturns rfl]

theorem outline_withReturns (addresses : Addresses) {code : List Char} (h : '\r' ∉ code) (path : String)
    : outline addresses (withReturns code) path = outline addresses code path ∨
        (['\\', '\n'] <:+ code ∧
          outline addresses code path = .failed path languageName Problem.notModule.message) := by
  unfold outline
  rw [lineCounts_congr (map_strip_lines_withReturns code)]
  rcases Lexer.tokens?_withReturns h with htokens | ⟨hsuffix, hnone⟩
  . left
    rw [parse?_congr (maxDepth_withReturns code) htokens]
  . right
    rw [parse?_eq, hnone]
    exact ⟨hsuffix, rfl⟩

/-! ### Files -/

theorem readText_of_encoded {files : Files.Store} {path : String} {code : List Char}
    (h : files.readBytes path = .ok (encode code)) : files.readText path = .ok (unifyLineEnds code) := by
  unfold Files.Store.readText
  rw [h]
  dsimp only [bind, Except.bind]
  rw [decode_encode]
  rfl

theorem outlineOfFile_of_encoded (addresses : Addresses) {files : Files.Store} {path : String} {code : List Char}
    (h : files.readBytes path = .ok (encode code))
    : outlineOfFile addresses files path = outline addresses (unifyLineEnds code) path := by
  unfold outlineOfFile
  rw [readText_of_encoded h]

/--
Carriage returns before the line feeds of a source text do not change its outline, unless the text ends in a
backslash and a line feed: such a text may be no module as it stands. In a file they never change it. This is so
wherever expressions are kept, as long as they are kept at the same addresses.
-/
theorem outline_ignores_returns (addresses : Addresses) (code : List Char) (hcode : '\r' ∉ code) (path : String)
    : (outline addresses (withReturns code) path = outline addresses code path ∨
        (['\\', '\n'] <:+ code ∧
          outline addresses code path = .failed path languageName Problem.notModule.message)) ∧
      ∀ files files' : Files.Store, files.readBytes path = .ok (encode code) →
        files'.readBytes path = .ok (encode (withReturns code)) →
        outlineOfFile addresses files' path = outlineOfFile addresses files path := by
  refine ⟨outline_withReturns addresses hcode path, ?_⟩
  intro files files' hfiles hfiles'
  rw [outlineOfFile_of_encoded addresses hfiles, outlineOfFile_of_encoded addresses hfiles',
    unifyLineEnds_withReturns hcode, unifyLineEnds_eq_self hcode]

-- A docstring of two lines, a blank line, a comment, and a backslash that joins two lines.
def ledgerCode : List Char :=
  "@d[0]\nclass Ledger(B[0]):\n    \"\"\"a\n    b\"\"\"\n\n    # c\n    def sum(self): return 1 + \\\n        2\n".toList

def ledgerFiles : Files.Store where
  entries := [(["ledger.py"], .file (encode ledgerCode))]

def ledgerReturns : Files.Store where
  entries := [(["ledger.py"], .file (encode (withReturns ledgerCode)))]

-- The decorator and the base are shown by where they are kept.
def ledgerAddresses : Addresses := fun line n => 4096 * line + 48 * n

theorem outline_ignores_returns_ledger
    : (outline ledgerAddresses (withReturns ledgerCode) "ledger.py" = outline ledgerAddresses ledgerCode "ledger.py" ∧
        (outline ledgerAddresses ledgerCode "ledger.py").entries.map
            (fun e => (e.name, e.firstLine, e.lastLine, e.decorators)) =
          [("Ledger", 2, 8, ["<ast.Subscript object at 0x2000>"]), ("sum", 7, 8, [])]) ∧
      outlineOfFile ledgerAddresses ledgerReturns "ledger.py" =
        outlineOfFile ledgerAddresses ledgerFiles "ledger.py" := by
  have hignores := outline_ignores_returns ledgerAddresses ledgerCode (by decide +kernel) "ledger.py"
  have hopen : ¬ ['\\', '\n'] <:+ ledgerCode := by decide +kernel
  refine ⟨⟨hignores.1.resolve_right fun h => hopen h.1, by decide +kernel⟩, ?_⟩
  exact hignores.2 ledgerFiles ledgerReturns rfl rfl

-- A backslash at the end of the last line.
def joinedCode : List Char := "x = 1 \\\n".toList

/--
The text is no module, but with a carriage return before its line feed it is one.
-/
theorem outline_joinedCode_differs
    : '\r' ∉ joinedCode ∧ (outline (fun _ _ => 0) joinedCode "").problems = [Problem.notModule.message] ∧
        (outline (fun _ _ => 0) (withReturns joinedCode) "").problems = [] := by
  decide +kernel

end Syntax

end CodeAudit
