import CodeAudit.Proofs.TokenLines
import Mathlib.Data.List.Find

/-!
This module contains what a line feed at the end of a text changes for the scanner. A token is read in the same
way whatever follows the line feed behind it, so one more line feed leaves all tokens as they are, but for the
lines of those that cannot be seen. Only a text that ends in a backslash and a line feed is another matter: the
backslash asks for one more line.
-/

namespace CodeAudit.Text

theorem Terminated.mem_lineFeed {cs : List Char} (h : Terminated cs) (hcs : cs ≠ []) : '\n' ∈ cs :=
  List.count_pos_iff.mp (h.count_pos hcs)

theorem Terminated.tail {c : Char} {rest : List Char} (h : Terminated (c :: rest)) : Terminated rest :=
  h.of_isSuffix (List.suffix_cons c rest)

theorem mem_lineFeed_tail {c : Char} {rest : List Char} (h : '\n' ∈ c :: rest) (hc : c ≠ '\n')
    : '\n' ∈ rest :=
  (List.mem_cons.mp h).resolve_left hc.symm

theorem Terminated.tail_ne_nil {c : Char} {rest : List Char} (h : Terminated (c :: rest)) (hc : c ≠ '\n')
    : rest ≠ [] := by
  rintro rfl
  exact hc (h c rfl)

end CodeAudit.Text

namespace CodeAudit.Syntax

open Text

theorem SameLine.mem_lineFeed {cs rest : List Char} (h : SameLine cs rest) (hcs : '\n' ∈ cs) : '\n' ∈ rest := by
  rcases h with ⟨used, rfl, hused⟩
  rw [List.mem_append] at hcs
  exact hcs.resolve_left hused

theorem SameLine.length_le {cs rest : List Char} (h : SameLine cs rest) : rest.length ≤ cs.length := by
  rcases h with ⟨used, rfl, _⟩
  simp

theorem isPrefixOf_append {word cs : List Char} (hword : '\n' ∉ word) (hcs : '\n' ∈ cs) (more : List Char)
    : word.isPrefixOf (cs ++ more) = word.isPrefixOf cs := by
  rw [Bool.eq_iff_iff, List.isPrefixOf_iff_prefix, List.isPrefixOf_iff_prefix]
  constructor
  . intro h
    apply List.prefix_of_prefix_length_le h (List.prefix_append cs more)
    by_contra hlength
    have hcs' := List.prefix_of_prefix_length_le (List.prefix_append cs more) h (by omega)
    exact hword (hcs'.subset hcs)
  . exact List.prefix_append_of_prefix

/-! ### Numbers -/

namespace Number

variable {cs : List Char}

theorem skipDigits_append {isDigit : Char → Bool} (hdigit : isDigit '\n' = false) (hcs : '\n' ∈ cs)
    (more : List Char) : skipDigits isDigit (cs ++ more) = (skipDigits isDigit cs).map (· ++ more) := by
  have hrest : ∀ {c : Char} {rest : List Char}, isDigit c = true → '\n' ∈ c :: rest → '\n' ∈ rest := by
    intro c rest hc hmem
    cases List.mem_cons.mp hmem with
    | inl heq =>
      rw [← heq, hdigit] at hc
      cases hc
    | inr hmem => exact hmem
  fun_induction skipDigits isDigit cs with
  | case1 c rest hc ih =>
    have hmem := hrest hc (by simpa using hcs)
    simp [skipDigits, hc, ih hmem]
  | case2 c rest hc => simp [skipDigits, hc]
  | case3 => simp at hcs
  | case4 c rest h₁ h₂ hc ih =>
    rw [List.cons_append, skipDigits, if_pos hc, ih (hrest hc hcs)]
    . rintro d rest' rfl hd
      cases rest with
      | nil => exact h₂ rfl rfl
      | cons d rest => exact h₁ _ _ rfl rfl
    . rintro rfl hnil
      exact h₂ rfl (List.append_eq_nil_iff.mp hnil).1
  | case5 c rest h₁ h₂ hc =>
    rw [List.cons_append, skipDigits, if_neg hc]
    . rfl
    . rintro d rest' rfl hd
      cases rest with
      | nil => exact h₂ rfl rfl
      | cons d rest => exact h₁ _ _ rfl rfl
    . rintro rfl hnil
      exact h₂ rfl (List.append_eq_nil_iff.mp hnil).1
  | case6 => simp at hcs

theorem endsBefore_append (hcs : '\n' ∈ cs) (more : List Char) : endsBefore (cs ++ more) = endsBefore cs := by
  have hkeywords : ∀ word ∈ gluedKeywords, '\n' ∉ word := by decide
  unfold endsBefore
  congr 1
  . rw [Bool.eq_iff_iff, List.any_eq_true, List.any_eq_true]
    constructor
    . rintro ⟨word, hword, h⟩
      rw [isPrefixOf_append (hkeywords word hword) hcs] at h
      exact ⟨word, hword, h⟩
    . rintro ⟨word, hword, h⟩
      rw [← isPrefixOf_append (hkeywords word hword) hcs more] at h
      exact ⟨word, hword, h⟩
  . cases cs with
    | nil => simp at hcs
    | cons c rest => rfl

theorem finish_append (imaginary : Bool) (hcs : '\n' ∈ cs) (more : List Char)
    : finish imaginary (cs ++ more) = (finish imaginary cs).map (Prod.map id (· ++ more)) := by
  unfold finish
  rw [endsBefore_append hcs]
  split
  . rfl
  . rfl

theorem suffix_append (hcs : '\n' ∈ cs) (more : List Char)
    : suffix (cs ++ more) = (suffix cs).map (Prod.map id (· ++ more)) := by
  fun_cases suffix cs with
  | case1 rest => exact finish_append true (by simpa using hcs) more
  | case2 rest => exact finish_append true (by simpa using hcs) more
  | case3 cs h₁ h₂ =>
    cases cs with
    | nil => simp at hcs
    | cons c rest =>
      rw [List.cons_append, suffix]
      . exact finish_append false hcs more
      . intro rest' heq
        rw [(List.cons.inj heq).1] at h₁
        exact h₁ rest rfl
      . intro rest' heq
        rw [(List.cons.inj heq).1] at h₂
        exact h₂ rest rfl

theorem digits_append {isDigit : Char → Bool} (hdigit : isDigit '\n' = false)
    {next : List Char → Option (Bool × List Char)} {more : List Char}
    (hnext : ∀ {mid}, '\n' ∈ mid → next (mid ++ more) = (next mid).map (Prod.map id (· ++ more)))
    (hcs : '\n' ∈ cs)
    : (skipDigits isDigit (cs ++ more)).bind next =
        ((skipDigits isDigit cs).bind next).map (Prod.map id (· ++ more)) := by
  rw [skipDigits_append hdigit hcs]
  cases h : skipDigits isDigit cs with
  | none => rfl
  | some rest => exact hnext ((skipDigits_sameLine hdigit h).mem_lineFeed hcs)

theorem exponent_append (hcs : '\n' ∈ cs) (more : List Char)
    : exponent (cs ++ more) = (exponent cs).map (Prod.map id (· ++ more)) := by
  cases cs with
  | nil => simp at hcs
  | cons e rest =>
    rw [List.cons_append]
    unfold exponent
    dsimp only
    split
    . next he =>
      have hrest : '\n' ∈ rest := by
        apply mem_lineFeed_tail hcs
        rintro rfl
        cases he
      cases rest with
      | nil => simp at hrest
      | cons c rest =>
        cases rest with
        | nil =>
          cases List.mem_singleton.mp hrest
          cases more with
          | nil => exact finish_append false hcs []
          | cons d more => exact finish_append false hcs (d :: more)
        | cons d rest =>
          dsimp only [List.cons_append]
          split
          . next hc =>
            exact digits_append rfl (fun h => suffix_append h more)
              (mem_lineFeed_tail hrest (ne_lineFeed_of_isDigit hc))
          . split
            . next hc =>
              have hsign : c ≠ '\n' := by
                rintro rfl
                cases hc
              split
              . next hd =>
                exact digits_append rfl (fun h => suffix_append h more)
                  (mem_lineFeed_tail (mem_lineFeed_tail hrest hsign) (ne_lineFeed_of_isDigit hd))
              . rfl
            . exact finish_append false hcs more
    . exact suffix_append hcs more

theorem fraction_append (hcs : '\n' ∈ cs) (more : List Char)
    : fraction (cs ++ more) = (fraction cs).map (Prod.map id (· ++ more)) := by
  cases cs with
  | nil => simp at hcs
  | cons c rest =>
    unfold fraction
    dsimp only [List.cons_append]
    split
    . exact digits_append rfl (fun h => exponent_append h more) hcs
    . exact exponent_append hcs more

theorem radixEnd_append (hcs : '\n' ∈ cs) (more : List Char)
    : radixEnd (cs ++ more) = (radixEnd cs).map (Prod.map id (· ++ more)) := by
  cases cs with
  | nil => simp at hcs
  | cons c rest =>
    unfold radixEnd
    dsimp only [List.cons_append]
    split
    . rfl
    . exact finish_append false hcs more

theorem radixDigits_append {isDigit : Char → Bool} (hdigit : isDigit '\n' = false) (hcs : '\n' ∈ cs)
    (more : List Char)
    : radixDigits isDigit (cs ++ more) = (radixDigits isDigit cs).map (Prod.map id (· ++ more)) := by
  have hrun : ∀ {c : Char} {rest : List Char}, '\n' ∈ c :: rest →
      (if isDigit c then (skipDigits isDigit (rest ++ more)).bind radixEnd else none) =
        (if isDigit c then (skipDigits isDigit rest).bind radixEnd else none).map
          (Prod.map id (· ++ more)) := by
    intro c rest hmem
    split
    . next hc =>
      apply digits_append hdigit (fun h => radixEnd_append h more)
      apply mem_lineFeed_tail hmem
      rintro rfl
      rw [hdigit] at hc
      cases hc
    . rfl
  cases cs with
  | nil => simp at hcs
  | cons c rest =>
    by_cases hc : c = '_'
    . subst hc
      have hrest := mem_lineFeed_tail hcs (by decide)
      cases rest with
      | nil => simp at hrest
      | cons d rest => exact hrun hrest
    . rw [List.cons_append, radixDigits, radixDigits]
      . exact hrun hcs
      . intro _ _ heq
        exact absurd heq hc
      . intro _ _ heq
        exact absurd heq hc

theorem integerEnd_append (digits : List Char) (hcs : '\n' ∈ cs) (more : List Char)
    : integerEnd digits (cs ++ more) = (integerEnd digits cs).map (Prod.map id (· ++ more)) := by
  unfold integerEnd
  split
  . exact finish_append false hcs more
  . split
    . rfl
    . exact finish_append false hcs more

theorem decimalEnd_append (digits : List Char) (hcs : '\n' ∈ cs) (more : List Char)
    : decimalEnd digits (cs ++ more) = (decimalEnd digits cs).map (Prod.map id (· ++ more)) := by
  fun_cases decimalEnd digits cs with
  | case1 rest => exact fraction_append (mem_lineFeed_tail hcs (by decide)) more
  | case2 => exact exponent_append hcs more
  | case3 => exact exponent_append hcs more
  | case4 => exact exponent_append hcs more
  | case5 => exact exponent_append hcs more
  | case6 cs h₁ h₂ h₃ h₄ h₅ =>
    cases cs with
    | nil => simp at hcs
    | cons c rest =>
      rw [List.cons_append, decimalEnd]
      . exact integerEnd_append digits hcs more
      all_goals
        intro _ heq
        simp_all

theorem decimal_append (hcs : '\n' ∈ cs) (more : List Char)
    : decimal (cs ++ more) = (decimal cs).map (Prod.map id (· ++ more)) := by
  unfold decimal
  rw [skipDigits_append rfl hcs]
  cases h : skipDigits Char.isDigit cs with
  | none => rfl
  | some rest =>
    have hrest := skipDigits_sameLine rfl h
    have hlength : (cs ++ more).length - (rest ++ more).length = cs.length - rest.length := by
      simp only [List.length_append]
      omega
    dsimp only [Option.map_some, Option.bind_some]
    rw [hlength, List.take_append_of_le_length (by omega)]
    exact decimalEnd_append _ (hrest.mem_lineFeed hcs) more

theorem scan_append (hcs : '\n' ∈ cs) (more : List Char)
    : scan (cs ++ more) = (scan cs).map (Prod.map id (· ++ more)) := by
  have hradix : ∀ {c d : Char} {rest : List Char}, '\n' ∈ c :: d :: rest → c ≠ '\n' → d ≠ '\n' →
      '\n' ∈ rest := by
    intro c d rest hmem hc hd
    exact mem_lineFeed_tail (mem_lineFeed_tail hmem hc) hd
  fun_cases scan cs with
  | case1 rest => exact fraction_append (mem_lineFeed_tail hcs (by decide)) more
  | case2 rest => exact radixDigits_append rfl (hradix hcs (by decide) (by decide)) more
  | case3 rest => exact radixDigits_append rfl (hradix hcs (by decide) (by decide)) more
  | case4 rest => exact radixDigits_append rfl (hradix hcs (by decide) (by decide)) more
  | case5 rest => exact radixDigits_append rfl (hradix hcs (by decide) (by decide)) more
  | case6 rest => exact radixDigits_append rfl (hradix hcs (by decide) (by decide)) more
  | case7 rest => exact radixDigits_append rfl (hradix hcs (by decide) (by decide)) more
  | case8 cs h₁ h₂ h₃ h₄ h₅ h₆ h₇ =>
    -- The letter of a base would be the second character, so there has to be one.
    cases cs with
    | nil => simp at hcs
    | cons c rest =>
      cases rest with
      | nil =>
        cases List.mem_singleton.mp hcs
        exact decimal_append hcs more
      | cons d rest =>
        rw [List.cons_append, List.cons_append, scan]
        . exact decimal_append hcs more
        all_goals
          intro _ heq
          simp_all

theorem scan_shorter {b : Bool} {c : Char} {rest : List Char} (hc : c.isDigit = true ∨ c = '.')
    (h : scan (c :: cs) = some (b, rest)) : rest.length ≤ cs.length := by
  have hradix : ∀ {isDigit : Char → Bool} {d : Char} {after : List Char}, isDigit '\n' = false →
      radixDigits isDigit after = some (b, rest) → rest.length ≤ (d :: after).length := by
    intro isDigit d after hdigit hrest
    exact (radixDigits_sameLine hdigit hrest).length_le.trans (Nat.le_succ _)
  unfold scan at h
  split at h
  . next heq =>
    cases heq
    exact (fraction_sameLine h).length_le
  . next heq =>
    cases heq
    exact hradix rfl h
  . next heq =>
    cases heq
    exact hradix rfl h
  . next heq =>
    cases heq
    exact hradix rfl h
  . next heq =>
    cases heq
    exact hradix rfl h
  . next heq =>
    cases heq
    exact hradix rfl h
  . next heq =>
    cases heq
    exact hradix rfl h
  . next hpoint _ _ _ _ _ _ =>
    have hdigit : c.isDigit = true := by
      apply hc.resolve_right
      intro heq
      rw [heq] at hpoint
      exact hpoint cs rfl
    unfold decimal at h
    rw [skipDigits, if_pos hdigit] at h
    . rcases Option.bind_eq_some_iff.mp h with ⟨mid, hmid, hrest⟩
      exact (skipDigits_sameLine rfl hmid).trans (decimalEnd_sameLine hrest) |>.length_le
    . rintro _ _ rfl
      cases hdigit
    . rintro rfl
      cases hdigit

end Number

/-! ### Single tokens -/

namespace Lexer

theorem stringBody_cons {c : Char} (hc : c ≠ '\\') (quote : Char) (triple : Bool) (acc rest : List Char)
    : stringBody quote triple acc (c :: rest) =
        if c == quote && (!triple || [quote, quote].isPrefixOf rest) then
          some (acc.reverse, if triple then rest.drop 2 else rest)
        else if c == '\n' && !triple then none
        else stringBody quote triple (c :: acc) rest := by
  rw [stringBody]
  . intro heq
    exact absurd heq hc
  . intro _ _ heq
    exact absurd heq hc

theorem stringBody_append {quote : Char} (hquote : quote ≠ '\n') {triple : Bool} {acc cs : List Char}
    (hcs : Terminated cs)
    : stringBody quote triple acc (cs ++ ['\n']) =
        (stringBody quote triple acc cs).map (Prod.map id (· ++ ['\n'])) := by
  have hbackslash : ∀ {c : Char} {rest : List Char}, (c = '\\' → rest = [] → False) →
      (∀ d rest', c = '\\' → rest = d :: rest' → False) → c ≠ '\\' := by
    intro c rest h₁ h₂ hc
    cases rest with
    | nil => exact h₁ hc rfl
    | cons d rest => exact h₂ d rest hc rfl
  -- A quote is not the last character of the text, so what stands behind it has a line feed.
  have hclosing : ∀ {c : Char} {rest : List Char}, Terminated (c :: rest) →
      (c == quote && (!triple || [quote, quote].isPrefixOf (rest ++ ['\n']))) =
        (c == quote && (!triple || [quote, quote].isPrefixOf rest)) := by
    intro c rest hterminated
    by_cases hc : c = quote
    . rw [isPrefixOf_append (by simpa using hquote.symm)]
      apply mem_lineFeed_tail (hterminated.mem_lineFeed (List.cons_ne_nil _ _))
      rw [hc]
      exact hquote
    . rw [beq_eq_false_iff_ne.mpr hc]
      rfl
  fun_induction stringBody quote triple acc cs with
  | case1 acc =>
    rw [List.nil_append, stringBody_cons (by decide)]
    simp [hquote.symm, stringBody]
  | case2 acc => cases hcs '\\' rfl
  | case3 acc c rest ih =>
    exact ih (hcs.tail.tail)
  | case4 acc c rest h₁ h₂ hclose =>
    rw [List.cons_append, stringBody_cons (hbackslash h₁ h₂), hclosing hcs, if_pos hclose]
    split
    . next htriple =>
      simp only [htriple, Bool.not_true, Bool.false_or, Bool.and_eq_true] at hclose
      have hlength : 2 ≤ rest.length := (List.isPrefixOf_iff_prefix.mp hclose.2).length_le
      rw [List.drop_append_of_le_length hlength]
      rfl
    . rfl
  | case5 acc c rest h₁ h₂ hopen hend =>
    rw [List.cons_append, stringBody_cons (hbackslash h₁ h₂), hclosing hcs, if_neg hopen, if_pos hend]
    rfl
  | case6 acc c rest h₁ h₂ hopen hend ih =>
    rw [List.cons_append, stringBody_cons (hbackslash h₁ h₂), hclosing hcs, if_neg hopen, if_neg hend]
    exact ih (hcs.tail)

theorem quoted_append {quote : Char} (hquote : quote ≠ '\n') {cs : List Char} (hcs : Terminated cs)
    (hne : cs ≠ [])
    : quoted quote (cs ++ ['\n']) = (quoted quote cs).map (Prod.map id (· ++ ['\n'])) := by
  cases cs with
  | nil => exact absurd rfl hne
  | cons c₁ rest =>
    cases rest with
    | nil =>
      cases hcs c₁ rfl
      have hfeed : ('\n' == quote) = false := beq_eq_false_iff_ne.mpr hquote.symm
      simp [quoted, hfeed, stringBody_cons]
    | cons c₂ rest =>
      unfold quoted
      dsimp only [List.cons_append]
      split
      . split
        . exact stringBody_append hquote hcs.tail.tail
        . rfl
      . exact stringBody_append hquote hcs

theorem symbol?_append {cs : List Char} (hcs : '\n' ∈ cs) (more : List Char)
    : symbol? (cs ++ more) = symbol? cs := by
  have hall : ∀ s ∈ symbols, '\n' ∉ s := by decide
  apply List.find?_congr
  intro s hs
  exact isPrefixOf_append (hall s hs) hcs more

theorem takeWhile_append_of_mem {p : Char → Bool} {cs : List Char} (hp : p '\n' = false) (hcs : '\n' ∈ cs)
    (more : List Char) : (cs ++ more).takeWhile p = cs.takeWhile p := by
  rw [List.takeWhile_append, if_neg]
  intro hlength
  have hall := (List.takeWhile_prefix p).eq_of_length hlength
  have hfeed : p '\n' = true := by
    rw [← hall] at hcs
    exact List.mem_takeWhile_imp hcs
  rw [hp] at hfeed
  cases hfeed

theorem dropWhile_append_of_mem {p : Char → Bool} {cs : List Char} (hp : p '\n' = false) (hcs : '\n' ∈ cs)
    (more : List Char) : (cs ++ more).dropWhile p = cs.dropWhile p ++ more := by
  rw [List.dropWhile_append, if_neg]
  intro hempty
  have hall := List.dropWhile_eq_nil_iff.mp (List.isEmpty_iff.mp hempty)
  have hfeed := hall '\n' hcs
  rw [hp] at hfeed
  cases hfeed

-- A quote is not the last character of the text, so the string that it opens goes on behind it.
theorem quoted_append_of_quote {q : Char} {rest : List Char} (hterminated : Terminated (q :: rest))
    (hq : (q == '"' || q == '\'') = true)
    : quoted q (rest ++ ['\n']) = (quoted q rest).map (Prod.map id (· ++ ['\n'])) := by
  have hfeed := ne_lineFeed_of_quote hq
  exact quoted_append hfeed hterminated.tail (hterminated.tail_ne_nil hfeed)

theorem word?_append {cs : List Char} (hcs : Terminated cs) (hne : cs ≠ [])
    : word? (cs ++ ['\n']) = (word? cs).map (Prod.map id (· ++ ['\n'])) := by
  have hmem := hcs.mem_lineFeed hne
  have hafter := (word_sameLine cs).mem_lineFeed hmem
  unfold word?
  dsimp only
  rw [takeWhile_append_of_mem rfl hmem]
  rw [List.drop_append_of_le_length (List.takeWhile_prefix _).length_le]
  have hterminated := hcs.of_isSuffix (List.drop_suffix (cs.takeWhile Number.continuesName).length cs)
  generalize cs.drop _ = after at hafter hterminated
  cases after with
  | nil => simp at hafter
  | cons q after =>
    dsimp only [List.cons_append]
    cases stringLetters? (cs.takeWhile Number.continuesName) with
    | none =>
      dsimp only
      split
      . rfl
      . rfl
    | some letters =>
      dsimp only
      split
      . next hq =>
        rw [quoted_append_of_quote hterminated hq]
        cases quoted q after with
        | none => rfl
        | some result => rfl
      . rfl

theorem startsNumber_append {c : Char} {rest : List Char} (hcs : Terminated (c :: rest))
    : (c == '.' && (rest ++ ['\n']).head?.any Char.isDigit) =
        (c == '.' && rest.head?.any Char.isDigit) := by
  by_cases hc : c = '\n'
  . rw [hc]
    rfl
  . rw [List.head?_append_of_ne_nil _ (hcs.tail_ne_nil hc)]

theorem token?_append {cs : List Char} (hcs : Terminated cs) (hne : cs ≠ [])
    : token? (cs ++ ['\n']) = (token? cs).map (Prod.map id (· ++ ['\n'])) := by
  have hmem := hcs.mem_lineFeed hne
  have hword := word?_append hcs hne
  have hscan := Number.scan_append hmem ['\n']
  have hsymbol := symbol?_append hmem ['\n']
  cases cs with
  | nil => exact absurd rfl hne
  | cons c rest =>
    rw [List.cons_append] at hword hscan hsymbol
    unfold token?
    dsimp only [List.cons_append]
    rw [startsNumber_append hcs]
    split
    . next hc =>
      rw [quoted_append_of_quote hcs hc]
      cases quoted c rest with
      | none => rfl
      | some result => rfl
    . split
      . exact hword
      . split
        . rw [hscan]
          cases Number.scan (c :: rest) with
          | none => rfl
          | some result => rfl
        . rw [hsymbol]
          cases hs : symbol? (c :: rest) with
          | none => rfl
          | some s =>
            have hprefix : s <+: c :: rest := by simpa using List.find?_some hs
            have hrest : (c :: rest ++ ['\n']).drop s.length = (c :: rest).drop s.length ++ ['\n'] :=
              List.drop_append_of_le_length hprefix.length_le
            rw [List.cons_append] at hrest
            simp [hrest]

/-! ### Indentation -/

-- Behind a backslash at the end of its line there has to be one more line.
theorem indentation_go_append {at_ : Indentation} {first joined : Nat} {cs : List Char} (hcs : Terminated cs)
    : indentation.go at_ first joined (cs ++ ['\n']) =
        (indentation.go at_ first joined cs).map (Prod.map id (Prod.map id (· ++ ['\n']))) ∨
      (['\\', '\n'] <:+ cs ∧ indentation.go at_ first joined cs = none) := by
  have hsuffix : ∀ {c : Char} {rest : List Char} {p : Prop}, ['\\', '\n'] <:+ rest ∧ p →
      ['\\', '\n'] <:+ c :: rest ∧ p := by
    intro c rest p h
    exact ⟨h.1.trans (List.suffix_cons c rest), h.2⟩
  fun_induction indentation.go at_ first joined cs with
  | case1 at_ first joined rest ih => exact (ih hcs.tail).imp_right hsuffix
  | case2 at_ first joined rest ih => exact (ih hcs.tail).imp_right hsuffix
  | case3 at_ first joined rest ih => exact (ih hcs.tail).imp_right hsuffix
  | case4 at_ first joined c rest ih => exact (ih hcs.tail.tail).imp_right (hsuffix ∘ hsuffix)
  | case5 at_ first joined rest h =>
    cases rest with
    | nil => cases hcs '\\' rfl
    | cons d rest =>
      by_cases hd : d = '\n'
      . subst hd
        cases rest with
        | nil => exact Or.inr ⟨List.suffix_refl _, rfl⟩
        | cons c rest => exact absurd rfl (h c rest)
      . left
        rw [List.cons_append, List.cons_append, indentation.go]
        . rfl
        . intro _ _ heq
          exact hd (List.cons.inj heq).1
  | case6 at_ first joined rest h₁ h₂ h₃ h₄ h₅ =>
    left
    cases rest with
    | nil => rfl
    | cons c rest =>
      rw [List.cons_append, indentation.go]
      . rfl
      . intro _ heq
        rw [(List.cons.inj heq).1] at h₁
        exact h₁ _ rfl
      . intro _ heq
        rw [(List.cons.inj heq).1] at h₂
        exact h₂ _ rfl
      . intro _ heq
        rw [(List.cons.inj heq).1] at h₃
        exact h₃ _ rfl
      . intro _ _ heq
        rw [(List.cons.inj heq).1] at h₅
        exact h₅ _ rfl
      . intro _ heq
        rw [(List.cons.inj heq).1] at h₅
        exact h₅ _ rfl

theorem indentation_go_ne_nil {at_ i : Indentation} {first joined joined' : Nat} {cs rest : List Char}
    (hcs : Terminated cs) (hne : cs ≠ []) (h : indentation.go at_ first joined cs = some (i, joined', rest))
    : rest ≠ [] := by
  fun_induction indentation.go at_ first joined cs with
  | case1 at_ first joined cs ih => exact ih hcs.tail (hcs.tail_ne_nil (by decide)) h
  | case2 at_ first joined cs ih => exact ih hcs.tail (hcs.tail_ne_nil (by decide)) h
  | case3 at_ first joined cs ih => exact ih hcs.tail (hcs.tail_ne_nil (by decide)) h
  | case4 at_ first joined c cs ih => exact ih hcs.tail.tail (List.cons_ne_nil _ _) h
  | case5 => cases h
  | case6 =>
    cases h
    exact hne

/-! ### Steps -/

theorem skipComment_append {cs : List Char} (hcs : Terminated cs) (hne : cs ≠ [])
    : skipComment (cs ++ ['\n']) = skipComment cs ++ ['\n'] ∧ skipComment cs ≠ [] := by
  have hmem := hcs.mem_lineFeed hne
  fun_cases skipComment cs with
  | case1 rest =>
    have hdrop := dropWhile_append_of_mem (p := (· != '\n')) rfl hmem ['\n']
    refine ⟨hdrop, ?_⟩
    intro hnil
    have hall := List.dropWhile_eq_nil_iff.mp hnil '\n' hmem
    cases hall
  | case2 cs h =>
    refine ⟨?_, hne⟩
    cases cs with
    | nil => exact absurd rfl hne
    | cons c rest =>
      rw [List.cons_append, skipComment]
      intro _ heq
      rw [(List.cons.inj heq).1] at h
      exact h _ rfl

theorem content_append {cs : List Char} (hcs : Terminated cs) (hne : cs ≠ [])
    : skipComment ((cs ++ ['\n']).dropWhile isGap) = skipComment (cs.dropWhile isGap) ++ ['\n'] ∧
        skipComment (cs.dropWhile isGap) ≠ [] := by
  have hmem := hcs.mem_lineFeed hne
  rw [dropWhile_append_of_mem rfl hmem]
  apply skipComment_append (hcs.of_isSuffix (List.dropWhile_suffix _))
  intro hnil
  have hall := List.dropWhile_eq_nil_iff.mp hnil '\n' hmem
  cases hall

/--
The same step with more text behind the place where the scanner goes on.
-/
def Step.append (more : List Char) : Step → Step
  | .fault => .fault
  | .done tokens => .done tokens
  | .more tokens s rest => .more tokens s (rest ++ more)

theorem lineStep_append (s : State) (i : Indentation) {cs : List Char} (hne : cs ≠ []) (more : List Char)
    : lineStep s i (cs ++ more) = (lineStep s i cs).append more := by
  cases cs with
  | nil => exact absurd rfl hne
  | cons c rest =>
    by_cases hc : c = '\n'
    . rw [hc]
      rfl
    . rw [List.cons_append, lineStep, lineStep]
      . split
        . cases indentTokens i s.indents with
          | none => rfl
          | some result => rfl
        . rfl
      all_goals
        intro _ heq
        exact hc (List.cons.inj heq).1

theorem linesBetween_append {cs rest : List Char} (h : rest <:+ cs) (more : List Char)
    : linesBetween (cs ++ more) (rest ++ more) = linesBetween cs rest := by
  have hlength := h.length_le
  unfold linesBetween
  rw [List.length_append, List.length_append, Nat.add_sub_add_right]
  rw [List.take_append_of_le_length (by omega)]

theorem tokenStep_append (s : State) {cs : List Char} (hcs : Terminated cs) (hne : cs ≠ [])
    : tokenStep s (cs ++ ['\n']) = (tokenStep s cs).append ['\n'] := by
  unfold tokenStep
  rw [token?_append hcs hne]
  cases htoken : token? cs with
  | none => rfl
  | some result =>
    rcases result with ⟨kind, rest⟩
    dsimp only [Option.map_some, Prod.map, id]
    rw [linesBetween_append (token?_leaves htoken).isSuffix]
    cases brackets? kind s.brackets with
    | none => rfl
    | some brackets => rfl

theorem innerStep_append (s : State) {cs : List Char} (hcs : Terminated cs) (hne : cs ≠ [])
    : innerStep s (cs ++ ['\n']) = (innerStep s cs).append ['\n'] ∨
        (cs = ['\\', '\n'] ∧ innerStep s cs = .fault) := by
  fun_cases innerStep s cs with
  | case1 => exact absurd rfl hne
  | case2 => exact absurd rfl hne
  | case3 rest => exact Or.inl rfl
  | case4 c rest => exact Or.inl rfl
  | case5 rest h =>
    cases rest with
    | nil => cases hcs '\\' rfl
    | cons d rest =>
      by_cases hd : d = '\n'
      . subst hd
        cases rest with
        | nil => exact Or.inr ⟨rfl, rfl⟩
        | cons c rest => exact absurd rfl (h c rest)
      . left
        rw [List.cons_append, List.cons_append, innerStep]
        . rfl
        . intro _ _ heq
          exact hd (List.cons.inj heq).1
  | case6 cs h₁ h₂ h₃ h₄ =>
    left
    rw [← tokenStep_append s hcs hne]
    cases cs with
    | nil => exact absurd rfl hne
    | cons c rest =>
      rw [List.cons_append, innerStep]
      . exact List.cons_ne_nil _ _
      . intro _ heq
        rw [(List.cons.inj heq).1] at h₂
        exact h₂ _ rfl
      . intro _ _ heq
        rw [(List.cons.inj heq).1] at h₄
        exact h₄ _ rfl
      . intro _ heq
        rw [(List.cons.inj heq).1] at h₄
        exact h₄ _ rfl

theorem step_append (s : State) {cs : List Char} (hcs : Terminated cs) (hne : cs ≠ [])
    : step s (cs ++ ['\n']) = (step s cs).append ['\n'] ∨ (['\\', '\n'] <:+ cs ∧ step s cs = .fault) := by
  unfold step
  split
  . unfold indentation
    rcases indentation_go_append hcs with hindentation | ⟨hsuffix, hnone⟩
    . left
      rw [hindentation]
      cases h : indentation.go ⟨0, 0⟩ 0 0 cs with
      | none => rfl
      | some result =>
        rcases result with ⟨i, joined, mid⟩
        have hmid := hcs.of_isSuffix (indentation_go_forward h).isSuffix
        rcases skipComment_append hmid (indentation_go_ne_nil hcs hne h) with ⟨hskip, hcontent⟩
        dsimp only [Option.map_some, Prod.map, id]
        rw [hskip]
        exact lineStep_append _ i hcontent ['\n']
    . right
      rw [hnone]
      exact ⟨hsuffix, rfl⟩
  . rcases content_append hcs hne with ⟨hskip, hcontent⟩
    have hsuffix := Moves.content_isSuffix cs
    rw [hskip]
    refine (innerStep_append s (hcs.of_isSuffix hsuffix) hcontent).imp_right ?_
    rintro ⟨hbackslash, hfault⟩
    rw [← hbackslash]
    exact ⟨hsuffix, hfault⟩

/-! ### Fuel -/

/--
How many steps the scanner can still take.
-/
def stepsLeft (s : State) (cs : List Char) : Nat :=
  2 * cs.length + if s.lineStart then 2 else 1

theorem word?_shorter {c : Char} {cs rest : List Char} (hc : startsWord c = true) {kind : Token.Kind}
    (h : word? (c :: cs) = some (kind, rest)) : rest.length ≤ cs.length := by
  have hcontinues : Number.continuesName c = true := by
    simp only [startsWord, Bool.or_eq_true] at hc
    simp only [Number.continuesName, Char.isAlphanum, Bool.or_eq_true]
    tauto
  have hafter : ((c :: cs).drop ((c :: cs).takeWhile Number.continuesName).length).length ≤ cs.length := by
    rw [List.takeWhile_cons_of_pos hcontinues, List.length_cons, List.drop_succ_cons, List.length_drop]
    omega
  unfold word? at h
  dsimp only at h
  split at h
  . next q after _ heq =>
    split at h
    . next hq =>
      rcases Option.map_eq_some_iff.mp h with ⟨⟨body, after'⟩, hquoted, hresult⟩
      cases hresult
      have hlength := (quoted_leaves (ne_lineFeed_of_quote hq) hquoted).isSuffix.length_le
      rw [heq, List.length_cons] at hafter
      dsimp only
      omega
    . cases h
      exact hafter
  . split at h
    . cases h
      exact hafter
    . cases h

theorem token?_shorter {cs rest : List Char} {kind : Token.Kind} (h : token? cs = some (kind, rest))
    : rest.length < cs.length := by
  unfold token? at h
  split at h
  . cases h
  . next c cs =>
    rw [List.length_cons, Nat.lt_succ_iff]
    split at h
    . next hc =>
      rcases Option.map_eq_some_iff.mp h with ⟨⟨body, after⟩, hquoted, heq⟩
      cases heq
      exact (quoted_leaves (ne_lineFeed_of_quote hc) hquoted).isSuffix.length_le
    . split at h
      . next hc => exact word?_shorter hc h
      . split at h
        . next hc =>
          rcases Option.map_eq_some_iff.mp h with ⟨⟨imaginary, after⟩, hscan, heq⟩
          cases heq
          apply Number.scan_shorter _ hscan
          simp only [Bool.or_eq_true, Bool.and_eq_true, beq_iff_eq] at hc
          exact hc.imp_right And.left
        . rcases Option.map_eq_some_iff.mp h with ⟨s, hs, heq⟩
          cases heq
          have hpos : ∀ s ∈ symbols, 0 < s.length := by decide
          have hlength := hpos s (List.mem_of_find?_eq_some hs)
          rw [List.length_drop, List.length_cons]
          omega

theorem Moves.stepsLeft_lt {s s' : State} {cs rest : List Char} {ts : List Token} (h : Moves s cs ts s' rest)
    : stepsLeft s' rest < stepsLeft s cs := by
  have hcontent := (Moves.content_isSuffix cs).length_le
  unfold stepsLeft
  cases h with
  | blankLine hstart hindentation hmid =>
    have hplace := (indentation_forward hindentation 0).isSuffix.length_le
    have hrest := (skipComment_isSuffix _).length_le.trans hplace
    rw [hmid, List.length_cons] at hrest
    rw [if_pos hstart, if_pos rfl]
    omega
  | indent marks hstart hindentation hmarks =>
    have hplace := (indentation_forward hindentation 0).isSuffix.length_le
    have hrest := (skipComment_isSuffix _).length_le.trans hplace
    rw [if_pos hstart, if_neg Bool.false_ne_true]
    omega
  | lineEnd marks hstart hcs hmarks =>
    rw [hcs, List.length_cons] at hcontent
    rw [hstart, if_pos rfl, if_neg Bool.false_ne_true]
    omega
  | join hstart hcs =>
    rw [hcs, List.length_cons, List.length_cons] at hcontent
    rw [hstart, if_neg Bool.false_ne_true]
    omega
  | token hstart hmid htoken hline =>
    have hrest := token?_shorter htoken
    rw [hmid] at hcontent
    rw [hstart, if_neg Bool.false_ne_true]
    omega

theorem tokensFrom_succ {fuel : Nat} {s : State} {cs : List Char} (h : stepsLeft s cs ≤ fuel)
    : tokensFrom (fuel + 1) s cs = tokensFrom fuel s cs := by
  induction fuel generalizing s cs with
  | zero =>
    unfold stepsLeft at h
    split at h
    . omega
    . omega
  | succ fuel ih =>
    rw [tokensFrom, tokensFrom]
    cases hstep : step s cs with
    | fault => rfl
    | done ts => rfl
    | more ts s' rest =>
      have hlt := (step_moves hstep).stepsLeft_lt
      dsimp only
      rw [ih (by omega)]

/-! ### One more line -/

theorem map_unplaced_append (ts : List Token) (found : Option (List Token))
    : (found.map (ts ++ ·)).map (List.map Token.unplaced) =
        (found.map (List.map Token.unplaced)).map (ts.map Token.unplaced ++ ·) := by
  cases found with
  | none => rfl
  | some ts' => simp

theorem map_unplaced_marks {marks : List Token.Kind} (h : ∀ kind ∈ marks, kind.isVisible = false) (line : Nat)
    : (marks.map fun kind => (⟨kind, line, line⟩ : Token)).map Token.unplaced =
        marks.map fun kind => ⟨kind, 0, 0⟩ := by
  rw [List.map_map]
  apply List.map_congr_left
  intro kind hkind
  simp [Token.unplaced, h kind hkind]

-- Only marks are left to read at the end of the text.
theorem tokensFrom_nil_line (fuel : Nat) (s : State) (line : Nat)
    : (tokensFrom fuel { s with line } []).map (List.map Token.unplaced) =
        (tokensFrom fuel s []).map (List.map Token.unplaced) := by
  induction fuel generalizing s line with
  | zero => rfl
  | succ fuel ih =>
    rcases s with ⟨line', indents, brackets, lineStart⟩
    cases lineStart with
    | false =>
      cases brackets with
      | nil => rfl
      | cons b bs => rfl
    | true =>
      have hstep : ∀ line, step ⟨line, indents, brackets, true⟩ [] =
          lineStep ⟨line, indents, brackets, false⟩ ⟨0, 0⟩ [] := fun _ => rfl
      dsimp only
      rw [tokensFrom, tokensFrom, hstep, hstep]
      cases brackets with
      | cons b bs =>
        simp only [lineStep, List.isEmpty_cons, Bool.false_eq_true, if_false, map_unplaced_append]
        rw [ih ⟨line', indents, b :: bs, false⟩ line]
      | nil =>
        simp only [lineStep, List.isEmpty_nil, if_true]
        cases hmarks : indentTokens ⟨0, 0⟩ indents with
        | none => rfl
        | some result =>
          have hvisible : ∀ kind ∈ result.1, kind.isVisible = false := by
            intro kind hkind
            exact indentTokens_not_visible hmarks hkind
          simp only [map_unplaced_append, map_unplaced_marks hvisible]
          rw [ih ⟨line', result.2, [], false⟩ line]

theorem Moves.lineStart_of_nil {s s' : State} {cs rest : List Char} {ts : List Token}
    (h : Moves s cs ts s' rest) (hcs : Terminated cs) (hne : cs ≠ []) (hrest : rest = [])
    : s'.lineStart = true := by
  cases h with
  | blankLine hstart hindentation hmid => rfl
  | lineEnd marks hstart hcontent hmarks => rfl
  | join hstart hcontent => cases hrest
  | indent marks hstart hindentation hmarks =>
    have hmid := hcs.of_isSuffix (indentation_forward hindentation 0).isSuffix
    have hcontent := skipComment_append hmid (indentation_go_ne_nil hcs hne hindentation)
    exact absurd hrest hcontent.2
  | token hstart hmid htoken hline =>
    have hcontent := hcs.of_isSuffix (content_isSuffix cs)
    rw [hmid] at hcontent
    exact absurd hrest ((token?_leaves htoken).ne_nil hcontent)

/--
A line feed more at the end of a text changes only the lines that the marks at the end are on. A text that
ends in a backslash and a line feed may also be one that cannot be scanned to its end.
-/
theorem tokensFrom_append {fuel : Nat} {s : State} {cs : List Char} (hcs : Terminated cs)
    (hfuel : stepsLeft s cs ≤ fuel) (hstart : cs = [] → s.lineStart = true)
    : (tokensFrom (fuel + 1) s (cs ++ ['\n'])).map (List.map Token.unplaced) =
          (tokensFrom fuel s cs).map (List.map Token.unplaced) ∨
        (['\\', '\n'] <:+ cs ∧ tokensFrom fuel s cs = none) := by
  induction fuel generalizing s cs with
  | zero =>
    unfold stepsLeft at hfuel
    split at hfuel
    . omega
    . omega
  | succ fuel ih =>
    by_cases hne : cs = []
    . rcases s with ⟨line, indents, brackets, lineStart⟩
      cases hstart hne
      subst hne
      left
      have hstep : step ⟨line, indents, brackets, true⟩ ['\n'] =
          .more [] ⟨line + 1, indents, brackets, true⟩ [] := rfl
      rw [List.nil_append, tokensFrom, hstep]
      dsimp only
      rw [map_unplaced_append, tokensFrom_nil_line _ ⟨line, indents, brackets, true⟩ (line + 1)]
      exact Option.map_id'
    . rw [tokensFrom, tokensFrom]
      rcases step_append s hcs hne with hstep | ⟨hsuffix, hstep⟩
      . rw [hstep]
        cases hstep : step s cs with
        | fault => exact Or.inl rfl
        | done ts => exact Or.inl rfl
        | more ts s' rest =>
          have hmoves := step_moves hstep
          have hrest := hmoves.forward.isSuffix
          have hlt := hmoves.stepsLeft_lt
          dsimp only [Step.append]
          rw [map_unplaced_append, map_unplaced_append]
          rcases ih (hcs.of_isSuffix hrest) (by omega) (hmoves.lineStart_of_nil hcs hne) with heq | ⟨hsuffix, hnone⟩
          . exact Or.inl (congrArg _ heq)
          . exact Or.inr ⟨hsuffix.trans hrest, by rw [hnone]; rfl⟩
      . exact Or.inr ⟨hsuffix, by rw [hstep]⟩

theorem tokensFrom_start_append {text : List Char} (h : Terminated text)
    : (tokensFrom (2 * (text ++ ['\n']).length + 2) ⟨1, [], [], true⟩ (text ++ ['\n'])).map (List.map Token.unplaced) =
          (tokensFrom (2 * text.length + 2) ⟨1, [], [], true⟩ text).map (List.map Token.unplaced) ∨
        (['\\', '\n'] <:+ text ∧ tokensFrom (2 * text.length + 2) ⟨1, [], [], true⟩ text = none) := by
  have hfuel : 2 * (text ++ ['\n']).length + 2 = 2 * text.length + 2 + 1 + 1 := by
    rw [List.length_append, List.length_singleton]
    omega
  have hsucc : tokensFrom (2 * text.length + 2 + 1) ⟨1, [], [], true⟩ text =
      tokensFrom (2 * text.length + 2) ⟨1, [], [], true⟩ text :=
    tokensFrom_succ (Nat.le_refl _)
  rw [hfuel, ← hsucc]
  exact tokensFrom_append h (Nat.le_succ _) (fun _ => rfl)

end Lexer

end CodeAudit.Syntax
