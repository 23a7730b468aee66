import CodeAudit.Proofs.LineEnds
import Mathlib.Data.List.TakeWhile

/-!
This module contains on which lines the tokens of a source text stand: they come in the order of their lines,
and those that can be seen stand on lines that the text has.
-/

namespace CodeAudit.Syntax

open Text

/--
The tokens come one behind the other from the line `first` on, and the visible ones end at the line `last`
or before.
-/
inductive Lined (last : Nat) : Nat → List Token → Prop where
  | nil {first : Nat} : Lined last first []
  | cons {first : Nat} {t : Token} {ts : List Token} (hfirst : first ≤ t.line) (hline : t.line ≤ t.endLine)
      (hlast : t.kind.isVisible → t.endLine ≤ last) (hrest : Lined last t.endLine ts) :
      Lined last first (t :: ts)

namespace Lined

theorem mono {last first first' : Nat} {ts : List Token} (h : Lined last first ts) (hle : first' ≤ first)
    : Lined last first' ts := by
  cases h with
  | nil => exact .nil
  | cons hfirst hline hlast hrest => exact .cons (Nat.le_trans hle hfirst) hline hlast hrest

end Lined

/-! ### Numbers -/

/--
What is left of a text after some of it was read that has no line end.
-/
def SameLine (cs rest : List Char) : Prop :=
  ∃ used, cs = used ++ rest ∧ '\n' ∉ used

namespace SameLine

theorem refl (cs : List Char) : SameLine cs cs := ⟨[], rfl, List.not_mem_nil⟩

theorem cons {c : Char} {cs rest : List Char} (hc : c ≠ '\n') (h : SameLine cs rest)
    : SameLine (c :: cs) rest := by
  rcases h with ⟨used, rfl, hused⟩
  refine ⟨c :: used, rfl, ?_⟩
  rw [List.mem_cons, not_or]
  exact ⟨hc.symm, hused⟩

theorem trans {cs mid rest : List Char} (h : SameLine cs mid) (h' : SameLine mid rest)
    : SameLine cs rest := by
  rcases h with ⟨used, rfl, hused⟩
  rcases h' with ⟨used', rfl, hused'⟩
  refine ⟨used ++ used', by simp, ?_⟩
  rw [List.mem_append, not_or]
  exact ⟨hused, hused'⟩

end SameLine

namespace Number

theorem skipDigits_sameLine {isDigit : Char → Bool} (hdigit : isDigit '\n' = false) {cs rest : List Char}
    (h : skipDigits isDigit cs = some rest) : SameLine cs rest := by
  have hne : ∀ {c : Char}, isDigit c = true → c ≠ '\n' := by
    intro c hc heq
    rw [heq, hdigit] at hc
    cases hc
  fun_induction skipDigits isDigit cs with
  | case1 c rest' hc ih => exact .cons (by decide) (.cons (hne hc) (ih h))
  | case2 => cases h
  | case3 => cases h
  | case4 c rest' _ _ hc ih => exact .cons (hne hc) (ih h)
  | case5 =>
    cases h
    exact .refl _
  | case6 =>
    cases h
    exact .refl _

theorem finish_sameLine {imaginary b : Bool} {cs rest : List Char}
    (h : finish imaginary cs = some (b, rest)) : SameLine cs rest := by
  unfold finish at h
  split at h
  . cases h
    exact .refl _
  . cases h

theorem suffix_sameLine {b : Bool} {cs rest : List Char} (h : suffix cs = some (b, rest))
    : SameLine cs rest := by
  unfold suffix at h
  split at h
  . exact .cons (by decide) (finish_sameLine h)
  . exact .cons (by decide) (finish_sameLine h)
  . exact finish_sameLine h

theorem ne_lineFeed_of_isDigit {c : Char} (h : c.isDigit = true) : c ≠ '\n' := by
  rintro rfl
  cases h

theorem digits_sameLine {b : Bool} {cs rest : List Char} {next : List Char → Option (Bool × List Char)}
    (hnext : ∀ {mid}, next mid = some (b, rest) → SameLine mid rest)
    (h : (skipDigits Char.isDigit cs).bind next = some (b, rest)) : SameLine cs rest := by
  rcases Option.bind_eq_some_iff.mp h with ⟨mid, hmid, hrest⟩
  exact (skipDigits_sameLine rfl hmid).trans (hnext hrest)

theorem exponent_sameLine {b : Bool} {cs rest : List Char} (h : exponent cs = some (b, rest))
    : SameLine cs rest := by
  unfold exponent at h
  split at h
  . exact finish_sameLine h
  . next e cs =>
    split at h
    . next he =>
      have hletter : e ≠ '\n' := by
        rintro rfl
        cases he
      split at h
      . next c d cs =>
        split at h
        . next hc => exact .cons hletter (.cons (ne_lineFeed_of_isDigit hc) (digits_sameLine suffix_sameLine h))
        . split at h
          . next hc =>
            have hsign : c ≠ '\n' := by
              rintro rfl
              cases hc
            split at h
            . next hd =>
              exact .cons hletter (.cons hsign
                (.cons (ne_lineFeed_of_isDigit hd) (digits_sameLine suffix_sameLine h)))
            . cases h
          . exact finish_sameLine h
      . next c =>
        split at h
        . next hc => exact .cons hletter (.cons (ne_lineFeed_of_isDigit hc) (suffix_sameLine h))
        . exact finish_sameLine h
      . exact finish_sameLine h
    . exact suffix_sameLine h

theorem fraction_sameLine {b : Bool} {cs rest : List Char} (h : fraction cs = some (b, rest))
    : SameLine cs rest := by
  unfold fraction at h
  split at h
  . split at h
    . exact digits_sameLine exponent_sameLine h
    . exact exponent_sameLine h
  . exact exponent_sameLine h

theorem radixEnd_sameLine {b : Bool} {cs rest : List Char} (h : radixEnd cs = some (b, rest))
    : SameLine cs rest := by
  unfold radixEnd at h
  split at h
  . split at h
    . cases h
    . exact finish_sameLine h
  . exact finish_sameLine h

theorem radixDigits_sameLine {isDigit : Char → Bool} (hdigit : isDigit '\n' = false) {b : Bool}
    {cs rest : List Char} (h : radixDigits isDigit cs = some (b, rest)) : SameLine cs rest := by
  have hrun : ∀ {c : Char} {cs : List Char}, isDigit c = true →
      (skipDigits isDigit cs).bind radixEnd = some (b, rest) → SameLine (c :: cs) rest := by
    intro c cs hc h
    rcases Option.bind_eq_some_iff.mp h with ⟨mid, hmid, hrest⟩
    refine .cons ?_ ((skipDigits_sameLine hdigit hmid).trans (radixEnd_sameLine hrest))
    rintro rfl
    rw [hdigit] at hc
    cases hc
  unfold radixDigits at h
  split at h
  . split at h
    . next hc => exact .cons (by decide) (hrun hc h)
    . cases h
  . split at h
    . next hc => exact hrun hc h
    . cases h
  . cases h

theorem integerEnd_sameLine {b : Bool} {digits cs rest : List Char}
    (h : integerEnd digits cs = some (b, rest)) : SameLine cs rest := by
  unfold integerEnd at h
  split at h
  . exact finish_sameLine h
  . split at h
    . cases h
    . exact finish_sameLine h

theorem decimalEnd_sameLine {b : Bool} {digits cs rest : List Char}
    (h : decimalEnd digits cs = some (b, rest)) : SameLine cs rest := by
  unfold decimalEnd at h
  split at h
  . exact .cons (by decide) (fraction_sameLine h)
  . exact exponent_sameLine h
  . exact exponent_sameLine h
  . exact exponent_sameLine h
  . exact exponent_sameLine h
  . exact integerEnd_sameLine h

theorem decimal_sameLine {b : Bool} {cs rest : List Char} (h : decimal cs = some (b, rest))
    : SameLine cs rest := by
  unfold decimal at h
  rcases Option.bind_eq_some_iff.mp h with ⟨mid, hmid, hrest⟩
  exact (skipDigits_sameLine rfl hmid).trans (decimalEnd_sameLine hrest)

theorem scan_sameLine {b : Bool} {cs rest : List Char} (h : scan cs = some (b, rest))
    : SameLine cs rest := by
  unfold scan at h
  split at h
  . exact .cons (by decide) (fraction_sameLine h)
  . exact .cons (by decide) (.cons (by decide) (radixDigits_sameLine rfl h))
  . exact .cons (by decide) (.cons (by decide) (radixDigits_sameLine rfl h))
  . exact .cons (by decide) (.cons (by decide) (radixDigits_sameLine rfl h))
  . exact .cons (by decide) (.cons (by decide) (radixDigits_sameLine rfl h))
  . exact .cons (by decide) (.cons (by decide) (radixDigits_sameLine rfl h))
  . exact .cons (by decide) (.cons (by decide) (radixDigits_sameLine rfl h))
  . exact decimal_sameLine h

end Number

/-! ### Single tokens -/

namespace Lexer

/--
What is left of a text after a token was read of it. Where the text has a line end at its end, the token
stands before that.
-/
structure Leaves (cs rest : List Char) : Prop where
  isSuffix : rest <:+ cs
  ne_nil (h : Terminated cs) : rest ≠ []

theorem leaves_of_sameLine {cs rest : List Char} (hcs : cs ≠ []) (h : SameLine cs rest)
    : Leaves cs rest := by
  rcases h with ⟨used, rfl, hused⟩
  refine ⟨⟨used, rfl⟩, ?_⟩
  intro hterminated hnil
  have hcount := hterminated.count_pos hcs
  rw [hnil, List.append_nil, List.count_pos_iff] at hcount
  exact hused hcount

theorem leaves_of_last (used : List Char) {rest : List Char} {c : Char} (hc : c ≠ '\n')
    : Leaves (used ++ c :: rest) rest := by
  refine ⟨⟨used ++ [c], by simp⟩, ?_⟩
  intro hterminated hnil
  rw [hnil] at hterminated
  exact hc (hterminated c (by simp))

theorem Leaves.cons {cs rest : List Char} (c : Char) (h : Leaves cs rest) : Leaves (c :: cs) rest := by
  refine ⟨h.isSuffix.trans (List.suffix_cons c cs), ?_⟩
  intro hterminated
  exact h.ne_nil (hterminated.of_isSuffix (List.suffix_cons c cs))

theorem Leaves.append {cs rest : List Char} (used : List Char) (h : Leaves cs rest)
    : Leaves (used ++ cs) rest := by
  induction used with
  | nil => exact h
  | cons c used ih => exact ih.cons c

theorem stringBody_leaves {quote : Char} (hquote : quote ≠ '\n') {triple : Bool}
    {acc cs body rest : List Char} (h : stringBody quote triple acc cs = some (body, rest))
    : Leaves cs rest := by
  fun_induction stringBody quote triple acc cs with
  | case1 => cases h
  | case2 => cases h
  | case3 acc c cs ih => exact ((ih h).cons c).cons _
  | case4 acc c cs _ _ hclose =>
    cases h
    rw [Bool.and_eq_true, beq_iff_eq] at hclose
    rw [hclose.1]
    cases triple with
    | false => exact leaves_of_last [] hquote
    | true =>
      rcases List.isPrefixOf_iff_prefix.mp hclose.2 with ⟨rest, rfl⟩
      exact leaves_of_last [quote, quote] hquote
  | case5 => cases h
  | case6 acc c cs _ _ _ _ ih => exact (ih h).cons c

theorem quoted_leaves {quote : Char} (hquote : quote ≠ '\n') {cs body rest : List Char}
    (h : quoted quote cs = some (body, rest)) : Leaves cs rest := by
  unfold quoted at h
  split at h
  . next c₁ c₂ cs =>
    split at h
    . next hc₁ =>
      split at h
      . exact ((stringBody_leaves hquote h).cons c₂).cons c₁
      . cases h
        rw [beq_iff_eq] at hc₁
        have hlast : c₁ ≠ '\n' := by rw [hc₁]; exact hquote
        exact leaves_of_last [] hlast
    . exact stringBody_leaves hquote h
  . next c =>
    split at h
    . next hc =>
      cases h
      rw [beq_iff_eq] at hc
      have hlast : c ≠ '\n' := by rw [hc]; exact hquote
      exact leaves_of_last [] hlast
    . cases h
  . cases h

theorem ne_lineFeed_of_quote {c : Char} (h : (c == '"' || c == '\'') = true) : c ≠ '\n' := by
  rintro rfl
  cases h

theorem sameLine_of_isPrefix {used cs : List Char} (h : used <+: cs) (hused : '\n' ∉ used)
    : SameLine cs (cs.drop used.length) :=
  ⟨used, (List.prefix_iff_eq_append.mp h).symm, hused⟩

theorem word_sameLine (cs : List Char)
    : SameLine cs (cs.drop (cs.takeWhile Number.continuesName).length) := by
  apply sameLine_of_isPrefix (List.takeWhile_prefix _)
  intro hmem
  have hcontinues := List.mem_takeWhile_imp hmem
  cases hcontinues

theorem symbol?_sameLine {cs s : List Char} (h : symbol? cs = some s) : SameLine cs (cs.drop s.length) := by
  have hall : ∀ s ∈ symbols, '\n' ∉ s := by decide
  apply sameLine_of_isPrefix
  . simpa using List.find?_some h
  . exact hall s (List.mem_of_find?_eq_some h)

theorem word?_leaves {cs rest : List Char} (hcs : cs ≠ []) {kind : Token.Kind}
    (h : word? cs = some (kind, rest)) : Leaves cs rest := by
  have hword := word_sameLine cs
  unfold word? at h
  dsimp only at h
  split at h
  . next q after _ hafter =>
    split at h
    . next hq =>
      rcases Option.map_eq_some_iff.mp h with ⟨⟨body, after'⟩, hquoted, heq⟩
      cases heq
      rw [hafter] at hword
      rcases hword with ⟨used, hused, _⟩
      rw [hused]
      exact ((quoted_leaves (ne_lineFeed_of_quote hq) hquoted).cons q).append used
    . cases h
      exact leaves_of_sameLine hcs hword
  . split at h
    . cases h
      exact leaves_of_sameLine hcs hword
    . cases h

theorem token?_leaves {cs rest : List Char} {kind : Token.Kind} (h : token? cs = some (kind, rest))
    : Leaves cs rest := by
  unfold token? at h
  split at h
  . cases h
  . next c cs =>
    split at h
    . next hc =>
      rcases Option.map_eq_some_iff.mp h with ⟨⟨body, after⟩, hquoted, heq⟩
      cases heq
      exact (quoted_leaves (ne_lineFeed_of_quote hc) hquoted).cons c
    . split at h
      . exact word?_leaves (List.cons_ne_nil _ _) h
      . split at h
        . rcases Option.map_eq_some_iff.mp h with ⟨⟨imaginary, after⟩, hscan, heq⟩
          cases heq
          exact leaves_of_sameLine (List.cons_ne_nil _ _) (Number.scan_sameLine hscan)
        . rcases Option.map_eq_some_iff.mp h with ⟨s, hs, heq⟩
          cases heq
          exact leaves_of_sameLine (List.cons_ne_nil _ _) (symbol?_sameLine hs)

/-! ### The scanner -/

/--
The scanner has come from one place of the text to another behind it, and for every line that it counted it
has left a line feed behind.
-/
structure Forward (line : Nat) (cs : List Char) (line' : Nat) (rest : List Char) : Prop where
  isSuffix : rest <:+ cs
  line_le : line ≤ line'
  feeds : line' + rest.count '\n' ≤ line + cs.count '\n'

namespace Forward

variable {line line' line'' : Nat} {cs mid rest : List Char}

theorem of_isSuffix (line : Nat) (h : rest <:+ cs) : Forward line cs line rest := by
  refine ⟨h, Nat.le_refl _, ?_⟩
  have := h.sublist.count_le '\n'
  omega

theorem trans (h : Forward line cs line' mid) (h' : Forward line' mid line'' rest)
    : Forward line cs line'' rest :=
  ⟨h'.isSuffix.trans h.isSuffix, Nat.le_trans h.line_le h'.line_le, Nat.le_trans h'.feeds h.feeds⟩

theorem lineFeed (line : Nat) (cs : List Char) : Forward line ('\n' :: cs) (line + 1) cs := by
  refine ⟨List.suffix_cons _ _, by omega, ?_⟩
  rw [List.count_cons_self]
  omega

end Forward

theorem skipComment_isSuffix (cs : List Char) : skipComment cs <:+ cs := by
  unfold skipComment
  split
  . exact List.dropWhile_suffix _
  . exact List.suffix_refl _

theorem indentation_go_forward {at_ i : Indentation} {first joined joined' : Nat} {cs rest : List Char}
    (h : indentation.go at_ first joined cs = some (i, joined', rest))
    : Forward joined cs joined' rest := by
  fun_induction indentation.go at_ first joined cs with
  | case1 at_ first joined cs ih => exact (Forward.of_isSuffix joined (List.suffix_cons _ _)).trans (ih h)
  | case2 at_ first joined cs ih => exact (Forward.of_isSuffix joined (List.suffix_cons _ _)).trans (ih h)
  | case3 at_ first joined cs ih => exact (Forward.of_isSuffix joined (List.suffix_cons _ _)).trans (ih h)
  | case4 at_ first joined c cs ih =>
    apply (Forward.of_isSuffix joined (List.suffix_cons _ _)).trans
    exact (Forward.lineFeed joined _).trans (ih h)
  | case5 => cases h
  | case6 =>
    cases h
    exact .of_isSuffix _ (List.suffix_refl _)

theorem indentation_forward {i : Indentation} {joined : Nat} {cs rest : List Char}
    (h : indentation cs = some (i, joined, rest)) (line : Nat) : Forward line cs (line + joined) rest := by
  have hgo := indentation_go_forward h
  have hfeeds := hgo.feeds
  exact ⟨hgo.isSuffix, by omega, by omega⟩

theorem linesBetween_forward (line : Nat) {cs rest : List Char} (h : rest <:+ cs)
    : Forward line cs (line + linesBetween cs rest) rest := by
  refine ⟨h, by omega, ?_⟩
  rcases h with ⟨used, rfl⟩
  unfold linesBetween
  rw [List.length_append, Nat.add_sub_cancel, List.take_left, List.count_append]
  omega

theorem indentTokens_not_visible {i : Indentation} {stack stack' : List Indentation} {marks : List Token.Kind}
    (h : indentTokens i stack = some (marks, stack')) {kind : Token.Kind} (hkind : kind ∈ marks)
    : kind.isVisible = false := by
  unfold indentTokens at h
  dsimp only at h
  split at h
  . split at h
    . cases h
      cases hkind
    . cases h
  . split at h
    . split at h
      . cases h
      . cases h
        rw [List.mem_singleton.mp hkind]
        rfl
    . split at h
      . cases h
        rw [List.eq_of_mem_replicate hkind]
        rfl
      . cases h

end Lexer

theorem Lined.append_marks {last line : Nat} {ts : List Token} (h : Lined last line ts)
    {marks : List Token.Kind} (hmarks : ∀ kind ∈ marks, kind.isVisible = false)
    : Lined last line (marks.map (fun kind => ⟨kind, line, line⟩) ++ ts) := by
  induction marks with
  | nil => exact h
  | cons kind marks ih =>
    rw [List.forall_mem_cons] at hmarks
    refine .cons (Nat.le_refl _) (Nat.le_refl _) ?_ (ih hmarks.2)
    intro hvisible
    rw [hmarks.1] at hvisible
    cases hvisible

namespace Lexer

/--
What a step of the scanner can do with a text that does not end with it.
-/
inductive Moves (s : State) (cs : List Char) : List Token → State → List Char → Prop where
  /-- Leave out a line on which nothing stands. -/
  | blankLine {i : Indentation} {joined : Nat} {mid rest : List Char} (hstart : s.lineStart = true)
      (hindentation : indentation cs = some (i, joined, mid)) (hmid : skipComment mid = '\n' :: rest) :
      Moves s cs [] ⟨s.line + joined + 1, s.indents, s.brackets, true⟩ rest
  /-- Read the indentation of a line. -/
  | indent (marks : List Token.Kind) {i : Indentation} {joined : Nat} {mid : List Char}
      {indents : List Indentation} (hstart : s.lineStart = true)
      (hindentation : indentation cs = some (i, joined, mid))
      (hmarks : ∀ kind ∈ marks, kind.isVisible = false) :
      Moves s cs (marks.map fun kind => ⟨kind, s.line + joined, s.line + joined⟩)
        ⟨s.line + joined, indents, s.brackets, false⟩ (skipComment mid)
  /-- Read the end of a line. -/
  | lineEnd (marks : List Token.Kind) {rest : List Char} (hstart : s.lineStart = false)
      (hcs : skipComment (cs.dropWhile isGap) = '\n' :: rest)
      (hmarks : ∀ kind ∈ marks, kind.isVisible = false) :
      Moves s cs (marks.map fun kind => ⟨kind, s.line, s.line⟩)
        ⟨s.line + 1, s.indents, s.brackets, true⟩ rest
  /-- Join the next line to this one. -/
  | join {c : Char} {rest : List Char} (hstart : s.lineStart = false)
      (hcs : skipComment (cs.dropWhile isGap) =
        '\\' :: '\n' :: c :: rest) :
      Moves s cs [] ⟨s.line + 1, s.indents, s.brackets, false⟩ (c :: rest)
  /-- Read a token that can be seen. -/
  | token {mid : List Char} {kind : Token.Kind} {rest : List Char} {brackets : List String} {line : Nat}
      (hstart : s.lineStart = false)
      (hmid : skipComment (cs.dropWhile isGap) = mid)
      (htoken : token? mid = some (kind, rest))
      (hline : line = s.line ∨ line = s.line + linesBetween mid rest) :
      Moves s cs [⟨kind, s.line, line⟩] ⟨line, s.indents, brackets, false⟩ rest

theorem lineStep_moves {s s' : State} {cs mid rest : List Char} {i : Indentation} {joined : Nat}
    {ts : List Token} (hstart : s.lineStart = true) (hindentation : indentation cs = some (i, joined, mid))
    (h : lineStep { s with line := s.line + joined, lineStart := false } i (skipComment mid) = .more ts s' rest)
    : Moves s cs ts s' rest := by
  generalize hcontent : skipComment mid = content at h
  unfold lineStep at h
  split at h
  . cases h
    exact .blankLine hstart hindentation hcontent
  . rw [← hcontent] at h
    split at h
    . split at h
      . cases h
      . next hmarks =>
        cases h
        exact .indent _ hstart hindentation fun kind hkind => indentTokens_not_visible hmarks hkind
    . cases h
      exact .indent [] hstart hindentation (by simp)

theorem tokenStep_moves {s s' : State} {cs mid rest : List Char} {ts : List Token} (hstart : s.lineStart = false)
    (hmid : skipComment (cs.dropWhile isGap) = mid) (h : tokenStep s mid = .more ts s' rest)
    : Moves s cs ts s' rest := by
  unfold tokenStep at h
  split at h
  . cases h
  . next htoken =>
    split at h
    . cases h
    . cases h
      rw [hstart]
      refine .token hstart hmid htoken ?_
      split
      . exact Or.inr rfl
      . exact Or.inl rfl

theorem innerStep_moves {s s' : State} {cs rest : List Char} {ts : List Token} (hstart : s.lineStart = false)
    (h : innerStep s (skipComment (cs.dropWhile isGap)) = .more ts s' rest) : Moves s cs ts s' rest := by
  generalize hcontent : skipComment (cs.dropWhile isGap) = content at h
  unfold innerStep at h
  split at h
  . split at h
    . cases h
    . cases h
  . cases h
    split
    . exact .lineEnd [.newline] hstart hcontent (by simp [Token.Kind.isVisible])
    . exact .lineEnd [] hstart hcontent (by simp)
  . cases h
    rw [hstart]
    exact .join hstart hcontent
  . cases h
  . exact tokenStep_moves hstart hcontent h

theorem step_moves {s s' : State} {cs rest : List Char} {ts : List Token} (h : step s cs = .more ts s' rest)
    : Moves s cs ts s' rest := by
  unfold step at h
  split at h
  . next hstart =>
    split at h
    . cases h
    . next hindentation => exact lineStep_moves hstart hindentation h
  . next hstart => exact innerStep_moves (Bool.not_eq_true _ ▸ hstart) h

theorem step_done {s : State} {cs : List Char} {ts : List Token} (h : step s cs = .done ts)
    : ts = [⟨.endMarker, s.line, s.line⟩] := by
  unfold step at h
  split at h
  . split at h
    . cases h
    . unfold lineStep at h
      split at h
      . cases h
      . split at h
        . split at h
          . cases h
          . cases h
        . cases h
  . unfold innerStep at h
    split at h
    . split at h
      . cases h
        rfl
      . cases h
    . cases h
    . cases h
    . cases h
    . unfold tokenStep at h
      split at h
      . cases h
      . split at h
        . cases h
        . cases h

namespace Moves

variable {s s' : State} {cs rest : List Char} {ts : List Token}

theorem content_isSuffix (cs : List Char)
    : skipComment (cs.dropWhile isGap) <:+ cs :=
  (skipComment_isSuffix _).trans (List.dropWhile_suffix _)

theorem forward (h : Moves s cs ts s' rest) : Forward s.line cs s'.line rest := by
  have hcontent := Forward.of_isSuffix s.line (content_isSuffix cs)
  cases h with
  | blankLine hstart hindentation hmid =>
    have hplace := (indentation_forward hindentation s.line).trans (.of_isSuffix _ (skipComment_isSuffix _))
    rw [hmid] at hplace
    exact hplace.trans (.lineFeed _ _)
  | indent marks hstart hindentation hmarks =>
    exact (indentation_forward hindentation s.line).trans (.of_isSuffix _ (skipComment_isSuffix _))
  | lineEnd marks hstart hcs hmarks =>
    rw [hcs] at hcontent
    exact hcontent.trans (.lineFeed _ _)
  | join hstart hcs =>
    rw [hcs] at hcontent
    exact (hcontent.trans (.of_isSuffix _ (List.suffix_cons _ _))).trans (.lineFeed _ _)
  | token hstart hmid htoken hline =>
    rw [hmid] at hcontent
    have hsuffix := (token?_leaves htoken).isSuffix
    rcases hline with rfl | rfl
    . exact hcontent.trans (.of_isSuffix _ hsuffix)
    . exact hcontent.trans (linesBetween_forward _ hsuffix)

theorem lined {last : Nat} {ts' : List Token} (h : Moves s cs ts s' rest) (hcs : Terminated cs)
    (hlast : s.line + cs.count '\n' ≤ last + 1) (hts' : Lined last s'.line ts')
    : Lined last s.line (ts ++ ts') := by
  have hforward := h.forward
  have hfeeds := hforward.feeds
  have hline_le := hforward.line_le
  cases h with
  | blankLine hstart hindentation hmid => exact hts'.mono hline_le
  | indent marks hstart hindentation hmarks => exact (hts'.append_marks hmarks).mono hline_le
  | lineEnd marks hstart hcontent hmarks => exact (hts'.mono hline_le).append_marks hmarks
  | join hstart hcontent => exact hts'.mono hline_le
  | @token mid kind rest brackets line hstart hmid htoken hline =>
    refine .cons (Nat.le_refl _) hline_le ?_ hts'
    intro _
    -- What follows the token still has the line feed at the end of the text.
    have hne : rest ≠ [] := by
      apply (token?_leaves htoken).ne_nil
      rw [← hmid]
      exact hcs.of_isSuffix (content_isSuffix cs)
    have hpos := (hcs.of_isSuffix hforward.isSuffix).count_pos hne
    dsimp only at hfeeds ⊢
    omega

end Moves

-- The induction is on the fuel, which every step of the scanner takes from. What it carries is the number of
-- line feeds that are still to come: a visible token has at least one of them behind it.
theorem tokensFrom_lined {fuel last : Nat} {s : State} {cs : List Char} {ts : List Token}
    (h : tokensFrom fuel s cs = some ts) (hcs : Terminated cs) (hlast : s.line + cs.count '\n' ≤ last + 1)
    : Lined last s.line ts := by
  induction fuel generalizing s cs ts with
  | zero => cases h
  | succ fuel ih =>
    unfold tokensFrom at h
    split at h
    . cases h
    . next hstep =>
      cases h
      rw [step_done hstep]
      exact .cons (Nat.le_refl _) (Nat.le_refl _) nofun .nil
    . next s' rest hstep =>
      rcases Option.map_eq_some_iff.mp h with ⟨ts', hts', rfl⟩
      have hmoves := step_moves hstep
      have hfeeds := hmoves.forward.feeds
      have hrest := hcs.of_isSuffix hmoves.forward.isSuffix
      exact hmoves.lined hcs hlast (ih hts' hrest (by omega))

theorem tokens?_lined {cs : List Char} {ts : List Token} (h : tokens? cs = some ts)
    : Lined (lines (unifyLineEnds cs)).length 1 ts := by
  unfold tokens? at h
  split at h
  . cases h
  . apply tokensFrom_lined h (physicalText_terminated cs)
    have := count_physicalText cs
    dsimp only
    omega

end Lexer

end CodeAudit.Syntax
