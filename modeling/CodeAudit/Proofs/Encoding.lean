import CodeAudit.Proofs.Fault
import CodeAudit.Text.Encoding
import Mathlib.Data.List.Basic

/-!
This module contains the bytes of a text in UTF-8: they are read back as the text and no other bytes are, and a
part of them that starts and ends between characters is read as the part of the text with these characters.
-/

namespace CodeAudit.Text

/--
The bytes of a character in UTF-8.
-/
def encodeChar (c : Char) : List Nat :=
  (String.utf8EncodeChar c).map UInt8.toNat

/--
The bytes of a text in UTF-8.
-/
def encode (cs : List Char) : List Nat :=
  cs.flatMap encodeChar

@[simp]
theorem encode_nil : encode [] = [] := rfl

@[simp]
theorem encode_cons (c : Char) (cs : List Char) : encode (c :: cs) = encodeChar c ++ encode cs := rfl

@[simp]
theorem encode_append (cs ds : List Char) : encode (cs ++ ds) = encode cs ++ encode ds :=
  List.flatMap_append

/-! ### How many bytes there are -/

theorem length_encodeChar (c : Char) : (encodeChar c).length = c.utf8Size := by
  unfold encodeChar
  rw [List.length_map, String.length_utf8EncodeChar]

theorem utf8Size_eq_one_iff (c : Char) : c.utf8Size = 1 ↔ c.toNat < 0x80 := by
  rw [Char.utf8Size_eq_one_iff, UInt32.le_iff_toNat_le]
  exact Nat.lt_succ_iff.symm

theorem length_le_length_encode (cs : List Char) : cs.length ≤ (encode cs).length := by
  induction cs with
  | nil => exact Nat.le_refl 0
  | cons c cs ih =>
    have hpos := c.utf8Size_pos
    rw [encode_cons, List.length_append, length_encodeChar, List.length_cons]
    omega

theorem length_encode_of_ascii {cs : List Char} (h : ∀ c ∈ cs, c.toNat < 0x80)
    : (encode cs).length = cs.length := by
  induction cs with
  | nil => rfl
  | cons c cs ih =>
    rw [List.forall_mem_cons] at h
    rw [encode_cons, List.length_append, length_encodeChar, ih h.2, List.length_cons]
    rw [(utf8Size_eq_one_iff c).mpr h.1]
    omega

/-! ### Reading a character back -/

theorem toNat_valid (c : Char) : c.toNat < 0xd800 ∨ (0xdfff < c.toNat ∧ c.toNat < 0x110000) :=
  c.valid

theorem continuation_go_cons {count n low high found b : Nat} {bs : List Nat} (hlow : low ≤ b)
    (hhigh : b ≤ high)
    : continuation.go (count + 1) n low high found (b :: bs) =
        continuation.go count (64 * n + (b - 0x80)) 0x80 0xbf (found + 1) bs := by
  rw [continuation.go]
  rw [if_pos]
  simp [hlow, hhigh]

theorem decode_go_cons {fuel position b count n low high m : Nat} {bs rest : List Nat}
    (hlead : leadByte? b = some (count, n, low, high))
    (hmore : continuation count n low high bs = .ok (m, rest))
    : decode.go (fuel + 1) position (b :: bs) =
        (decode.go fuel (position + count + 1) rest).map (Char.ofNat m :: ·) := by
  rw [decode.go]
  rw [hlead]
  dsimp only
  rw [hmore]

theorem leadByte?_one {v : Nat} (h : v < 0x80) : leadByte? v = some (0, v, 0, 0) := by
  unfold leadByte?
  rw [if_pos h]

theorem leadByte?_two {v : Nat} (hlow : 0x80 ≤ v) (hhigh : v < 0x800)
    : leadByte? (v / 64 + 0xc0) = some (1, v / 64, 0x80, 0xbf) := by
  unfold leadByte?
  rw [if_neg (by omega), if_pos]
  . rw [Nat.add_sub_cancel]
  . simp only [Bool.and_eq_true, decide_eq_true_eq]
    omega

-- The bounds of the second byte keep out the forms that are too long, the surrogates and what lies beyond
-- Unicode, so a lead byte at one end of its range is a case of its own.
theorem leadByte?_three {v : Nat} (hlow : 0x800 ≤ v) (hhigh : v < 0x10000)
    (hvalid : v < 0xd800 ∨ 0xdfff < v)
    : ∃ low high, leadByte? (v / 4096 + 0xe0) = some (2, v / 4096, low, high) ∧
        low ≤ v / 64 % 64 + 0x80 ∧ v / 64 % 64 + 0x80 ≤ high := by
  by_cases hfirst : v / 4096 = 0
  . refine ⟨0xa0, 0xbf, ?_, by omega, by omega⟩
    rw [hfirst]
    rfl
  by_cases hsurrogate : v / 4096 = 0xd
  . refine ⟨0x80, 0x9f, ?_, by omega, by omega⟩
    rw [hsurrogate]
    rfl
  . refine ⟨0x80, 0xbf, ?_, by omega, by omega⟩
    unfold leadByte?
    rw [if_neg (by omega), if_neg (by simp), if_neg (by simpa using hfirst)]
    rw [if_neg (by simp; omega), if_pos (by simp; omega)]
    rw [Nat.add_sub_cancel]

theorem leadByte?_four {v : Nat} (hlow : 0x10000 ≤ v) (hhigh : v < 0x110000)
    : ∃ low high, leadByte? (v / 262144 + 0xf0) = some (3, v / 262144, low, high) ∧
        low ≤ v / 4096 % 64 + 0x80 ∧ v / 4096 % 64 + 0x80 ≤ high := by
  by_cases hfirst : v / 262144 = 0
  . refine ⟨0x90, 0xbf, ?_, by omega, by omega⟩
    rw [hfirst]
    rfl
  by_cases hlast : v / 262144 = 4
  . refine ⟨0x80, 0x8f, ?_, by omega, by omega⟩
    rw [hlast]
    rfl
  . refine ⟨0x80, 0xbf, ?_, by omega, by omega⟩
    unfold leadByte?
    rw [if_neg (by omega), if_neg (by simp), if_neg (by simp), if_neg (by simp)]
    rw [if_neg (by simp), if_neg (by simpa using hfirst), if_pos (by simp; omega)]
    rw [Nat.add_sub_cancel]

/--
All forms that the bytes of a character have.
-/
theorem encodeChar_cases (c : Char)
    : (c.toNat < 0x80 ∧ encodeChar c = [c.toNat]) ∨
      (0x80 ≤ c.toNat ∧ c.toNat < 0x800 ∧
        encodeChar c = [c.toNat / 64 + 0xc0, c.toNat % 64 + 0x80]) ∨
      (0x800 ≤ c.toNat ∧ c.toNat < 0x10000 ∧
        encodeChar c =
          [c.toNat / 4096 + 0xe0, c.toNat / 64 % 64 + 0x80, c.toNat % 64 + 0x80]) ∨
      (0x10000 ≤ c.toNat ∧ c.toNat < 0x110000 ∧
        encodeChar c =
          [c.toNat / 262144 + 0xf0, c.toNat / 4096 % 64 + 0x80, c.toNat / 64 % 64 + 0x80,
            c.toNat % 64 + 0x80]) := by
  have hvalid := toNat_valid c
  unfold encodeChar String.utf8EncodeChar
  generalize hv : c.toNat = v at hvalid
  rw [show c.val.toNat = v from hv]
  dsimp only
  split
  . next h =>
    refine Or.inl ⟨by omega, ?_⟩
    simp only [List.map_cons, List.map_nil, UInt8.toNat_ofNat', List.cons.injEq, and_true]
    omega
  . split
    . next h =>
      refine Or.inr (Or.inl ⟨by omega, by omega, ?_⟩)
      simp only [List.map_cons, List.map_nil, UInt8.toNat_ofNat', List.cons.injEq, and_true]
      omega
    . split
      . next h =>
        refine Or.inr (Or.inr (Or.inl ⟨by omega, by omega, ?_⟩))
        simp only [List.map_cons, List.map_nil, UInt8.toNat_ofNat', List.cons.injEq, and_true]
        omega
      . refine Or.inr (Or.inr (Or.inr ⟨by omega, by omega, ?_⟩))
        simp only [List.map_cons, List.map_nil, UInt8.toNat_ofNat', List.cons.injEq, and_true]
        omega

theorem decode_go_encodeChar (fuel position : Nat) (c : Char) (rest : List Nat)
    : ∃ next, decode.go (fuel + 1) position (encodeChar c ++ rest) =
        (decode.go fuel next rest).map (c :: ·) := by
  have hvalid := toNat_valid c
  have hread : ∀ m, m = c.toNat → Char.ofNat m = c := by
    intro m hm
    rw [hm, Char.ofNat_toNat]
  rcases encodeChar_cases c with ⟨h, hbytes⟩ | ⟨hlow, hhigh, hbytes⟩ | ⟨hlow, hhigh, hbytes⟩ |
    ⟨hlow, hhigh, hbytes⟩
  . refine ⟨position + 0 + 1, ?_⟩
    rw [hbytes, List.singleton_append]
    rw [decode_go_cons (leadByte?_one h) rfl, Char.ofNat_toNat]
  . refine ⟨position + 1 + 1, ?_⟩
    rw [hbytes, List.cons_append, List.singleton_append]
    rw [decode_go_cons (leadByte?_two hlow hhigh) (continuation_go_cons (by omega) (by omega))]
    rw [hread _ (by omega)]
  . rcases leadByte?_three hlow hhigh (by omega) with ⟨low, high, hlead, hfrom, hto⟩
    refine ⟨position + 2 + 1, ?_⟩
    rw [hbytes, List.cons_append, List.cons_append, List.singleton_append]
    rw [decode_go_cons hlead
      ((continuation_go_cons hfrom hto).trans (continuation_go_cons (by omega) (by omega)))]
    rw [hread _ (by omega)]
  . rcases leadByte?_four hlow hhigh with ⟨low, high, hlead, hfrom, hto⟩
    refine ⟨position + 3 + 1, ?_⟩
    rw [hbytes, List.cons_append, List.cons_append, List.cons_append, List.singleton_append]
    rw [decode_go_cons hlead
      ((continuation_go_cons hfrom hto).trans
        ((continuation_go_cons (by omega) (by omega)).trans
          (continuation_go_cons (by omega) (by omega))))]
    rw [hread _ (by omega)]

theorem decode_go_encode {fuel : Nat} {cs : List Char} (hfuel : cs.length ≤ fuel) (position : Nat)
    : decode.go fuel position (encode cs) = .ok cs := by
  induction cs generalizing fuel position with
  | nil =>
    cases fuel with
    | zero => rfl
    | succ fuel => rfl
  | cons c cs ih =>
    cases fuel with
    | zero => cases hfuel
    | succ fuel =>
      rcases decode_go_encodeChar fuel position c (encode cs) with ⟨next, hnext⟩
      rw [encode_cons, hnext, ih (Nat.le_of_succ_le_succ hfuel)]
      rfl

/--
The bytes of a text are read back as the text.
-/
theorem decode_encode (cs : List Char) : decode (encode cs) = .ok cs := by
  apply decode_go_encode
  exact Nat.le_succ_of_le (length_le_length_encode cs)

theorem ascii_of_encode {cs : List Char} (h : ∀ b ∈ encode cs, b < 0x80) : ∀ c ∈ cs, c.toNat < 0x80 := by
  intro c hc
  have hbytes : ∀ b ∈ encodeChar c, b < 0x80 := by
    intro b hb
    exact h b (List.mem_flatMap.mpr ⟨c, hc, hb⟩)
  rcases encodeChar_cases c with ⟨hsmall, _⟩ | ⟨_, _, heq⟩ | ⟨_, _, heq⟩ | ⟨_, _, heq⟩
  . exact hsmall
  all_goals
    rw [heq] at hbytes
    have hlead := hbytes _ List.mem_cons_self
    omega

/-! ### Reading bytes -/

/--
What the first byte of a character leaves open, by the number of bytes that follow it.
-/
theorem leadByte?_cases {b count n low high : Nat} (h : leadByte? b = some (count, n, low, high))
    : (count = 0 ∧ b < 0x80 ∧ n = b) ∨
      (count = 1 ∧ 0xc2 ≤ b ∧ b < 0xe0 ∧ n + 0xc0 = b ∧ low = 0x80 ∧ high = 0xbf) ∨
      (count = 2 ∧ 0xe0 ≤ b ∧ b < 0xf0 ∧ n + 0xe0 = b ∧ 0x80 ≤ low ∧ high ≤ 0xbf ∧
        (b = 0xe0 → low = 0xa0) ∧ (b = 0xed → high = 0x9f)) ∨
      (count = 3 ∧ 0xf0 ≤ b ∧ b ≤ 0xf4 ∧ n + 0xf0 = b ∧ 0x80 ≤ low ∧ high ≤ 0xbf ∧
        (b = 0xf0 → low = 0x90) ∧ (b = 0xf4 → high = 0x8f)) := by
  unfold leadByte? at h
  simp only [Bool.and_eq_true, decide_eq_true_eq, beq_iff_eq] at h
  repeat' split at h
  all_goals simp only [Option.some.injEq, Prod.mk.injEq, reduceCtorEq] at h
  all_goals omega

theorem continuation_go_eq_ok {count n low high found m : Nat} {bs rest : List Nat}
    (h : continuation.go (count + 1) n low high found bs = .ok (m, rest))
    : ∃ b bs', bs = b :: bs' ∧ low ≤ b ∧ b ≤ high ∧
        continuation.go count (64 * n + (b - 0x80)) 0x80 0xbf (found + 1) bs' = .ok (m, rest) := by
  cases bs with
  | nil =>
    rw [continuation.go] at h
    cases h
  | cons b bs =>
    rw [continuation.go] at h
    split at h
    . next hbounds =>
      simp only [Bool.and_eq_true, decide_eq_true_eq] at hbounds
      exact ⟨b, bs, rfl, hbounds.1, hbounds.2, h⟩
    . cases h

theorem continuation_go_zero {n low high found m : Nat} {bs rest : List Nat}
    (h : continuation.go 0 n low high found bs = .ok (m, rest)) : n = m ∧ bs = rest := by
  simpa [continuation.go] using h

theorem toNat_ofNat_of_valid {n : Nat} (h : n < 0xd800 ∨ (0xdfff < n ∧ n < 0x110000))
    : (Char.ofNat n).toNat = n := by
  unfold Char.ofNat
  rw [dif_pos h]
  rfl

theorem encodeChar_ofNat {n : Nat} (h : n < 0xd800 ∨ (0xdfff < n ∧ n < 0x110000))
    : encodeChar (Char.ofNat n) =
        if n < 0x80 then [n]
        else if n < 0x800 then [n / 64 + 0xc0, n % 64 + 0x80]
        else if n < 0x10000 then [n / 4096 + 0xe0, n / 64 % 64 + 0x80, n % 64 + 0x80]
        else [n / 262144 + 0xf0, n / 4096 % 64 + 0x80, n / 64 % 64 + 0x80, n % 64 + 0x80] := by
  have hbytes := encodeChar_cases (Char.ofNat n)
  rw [toNat_ofNat_of_valid h] at hbytes
  rcases hbytes with ⟨_, heq⟩ | ⟨_, _, heq⟩ | ⟨_, _, heq⟩ | ⟨_, _, heq⟩
  . rw [heq, if_pos (by omega)]
  . rw [heq, if_neg (by omega), if_pos (by omega)]
  . rw [heq, if_neg (by omega), if_neg (by omega), if_pos (by omega)]
  . rw [heq, if_neg (by omega), if_neg (by omega), if_neg (by omega)]

/--
The bytes that are read as one character are the bytes of that character.
-/
theorem eq_encodeChar_append {b count n low high m : Nat} {bs rest : List Nat}
    (hlead : leadByte? b = some (count, n, low, high))
    (hmore : continuation count n low high bs = .ok (m, rest))
    : b :: bs = encodeChar (Char.ofNat m) ++ rest := by
  unfold continuation at hmore
  rcases leadByte?_cases hlead with ⟨rfl, hb⟩ | ⟨rfl, hb⟩ | ⟨rfl, hb⟩ | ⟨rfl, hb⟩
  . rcases continuation_go_zero hmore with ⟨hm, rfl⟩
    rw [encodeChar_ofNat (by omega), if_pos (by omega)]
    simp only [List.cons_append, List.nil_append, List.cons.injEq, and_true]
    omega
  . rcases continuation_go_eq_ok hmore with ⟨b₁, bs, rfl, _, _, hmore⟩
    rcases continuation_go_zero hmore with ⟨hm, rfl⟩
    rw [encodeChar_ofNat (by omega), if_neg (by omega), if_pos (by omega)]
    simp only [List.cons_append, List.nil_append, List.cons.injEq, and_true]
    omega
  . rcases continuation_go_eq_ok hmore with ⟨b₁, bs, rfl, _, _, hmore⟩
    rcases continuation_go_eq_ok hmore with ⟨b₂, bs, rfl, _, _, hmore⟩
    rcases continuation_go_zero hmore with ⟨hm, rfl⟩
    rw [encodeChar_ofNat (by omega), if_neg (by omega), if_neg (by omega), if_pos (by omega)]
    simp only [List.cons_append, List.nil_append, List.cons.injEq, and_true]
    omega
  . rcases continuation_go_eq_ok hmore with ⟨b₁, bs, rfl, _, _, hmore⟩
    rcases continuation_go_eq_ok hmore with ⟨b₂, bs, rfl, _, _, hmore⟩
    rcases continuation_go_eq_ok hmore with ⟨b₃, bs, rfl, _, _, hmore⟩
    rcases continuation_go_zero hmore with ⟨hm, rfl⟩
    rw [encodeChar_ofNat (by omega), if_neg (by omega), if_neg (by omega), if_neg (by omega)]
    simp only [List.cons_append, List.nil_append, List.cons.injEq, and_true]
    omega

theorem decode_go_eq_ok {fuel position : Nat} {bytes : List Nat} {cs : List Char}
    (hfuel : bytes.length < fuel) (h : decode.go fuel position bytes = .ok cs) : bytes = encode cs := by
  induction fuel generalizing position bytes cs with
  | zero => omega
  | succ fuel ih =>
    cases bytes with
    | nil =>
      cases h
      rfl
    | cons b bs =>
      rw [decode.go] at h
      split at h
      . cases h
      . next count n low high hlead =>
        split at h
        . next m rest hmore =>
          rcases map_eq_ok_iff.mp h with ⟨ds, hds, rfl⟩
          have hbytes := eq_encodeChar_append hlead hmore
          have hlength := congrArg List.length hbytes
          rw [List.length_append, length_encodeChar] at hlength
          have hpos := (Char.ofNat m).utf8Size_pos
          rw [encode_cons, hbytes, ih _ hds]
          omega
        . cases h

/--
Bytes are read as a text exactly if they are the bytes of the text.
-/
theorem decode_eq_ok_iff {bytes : List Nat} {cs : List Char} : decode bytes = .ok cs ↔ bytes = encode cs := by
  constructor
  . apply decode_go_eq_ok
    omega
  . intro h
    rw [h]
    apply decode_encode

/-! ### Parts of a text -/

/--
The numbers of bytes after which a character starts or the text ends.
-/
def Boundary (code : List Char) (place : Nat) : Prop :=
  ∃ front back, code = front ++ back ∧ (encode front).length = place

theorem boundary_iff {code : List Char} {place : Nat}
    : Boundary code place ↔
        ∃ count ∈ List.range (code.length + 1), (encode (code.take count)).length = place := by
  constructor
  . rintro ⟨front, back, rfl, rfl⟩
    refine ⟨front.length, ?_, by rw [List.take_left]⟩
    rw [List.mem_range, List.length_append]
    omega
  . rintro ⟨count, _, rfl⟩
    exact ⟨code.take count, code.drop count, (List.take_append_drop count code).symm, rfl⟩

instance (code : List Char) (place : Nat) : Decidable (Boundary code place) :=
  decidable_of_iff _ boundary_iff.symm

theorem exists_parts {code : List Char} {start stop : Nat} (hstart : Boundary code start)
    (hstop : Boundary code stop) (hle : start ≤ stop)
    : ∃ front middle back, code = front ++ middle ++ back ∧ (encode front).length = start ∧
        (encode (front ++ middle)).length = stop := by
  rcases hstart with ⟨front, rest, hcode, hfront⟩
  rcases hstop with ⟨longer, back, hcode', hlonger⟩
  rcases List.append_eq_append_iff.mp (hcode.symm.trans hcode') with ⟨middle, heq, _⟩ | ⟨extra, heq, _⟩
  . refine ⟨front, middle, back, ?_, hfront, ?_⟩
    . rw [hcode', heq]
    . rw [← heq, hlonger]
  . -- The part ends before it starts, so nothing can stand between the two places.
    have hlength := length_le_length_encode extra
    have hnil : extra = [] := by
      rw [heq, encode_append, List.length_append] at hfront
      apply List.eq_nil_of_length_eq_zero
      omega
    rw [hnil, List.append_nil] at heq
    refine ⟨front, [], rest, by simpa using hcode, hfront, ?_⟩
    rw [List.append_nil, heq, hlonger]

theorem decode_part {front middle back : List Char}
    : decode (((encode (front ++ middle ++ back)).drop (encode front).length).take
        ((encode (front ++ middle)).length - (encode front).length)) = .ok middle := by
  simp only [encode_append, List.append_assoc]
  rw [List.drop_left]
  rw [List.length_append, Nat.add_sub_cancel_left, List.take_left]
  exact decode_encode middle

end CodeAudit.Text
