import Mathlib.Algebra.Group.Nat.Defs
import TextShell.Text.Utf8

/-!
# What stands at the beginning of bytes

`step` says what some bytes begin with: a character exactly if they begin with its encoding
(`step_eq_char_iff`), and an unexpected end if they are a part of such an encoding (`step_of_part`).

After its lead byte a character is written with the digits of its code point in base 64 (`tail`), so
both facts are inductions on how many of these digits are left.  The lead byte holds the bits above
them, and the window that it sets for the first digit keeps out exactly the numbers that are written
shorter or that are no characters (`tailIn_three_iff`, `tailIn_four_iff`).

## Main Definitions

* `tail` — the bytes after a lead byte
* `LeadByte` — the lead bytes, with what they say about the bytes that follow
* `Writes` — a lead byte and a tail write a number
-/

namespace TextShell

namespace Utf8

theorem toNat_ofNat {n : Nat} (h : n < 256) : (UInt8.ofNat n).toNat = n := by
  rw [UInt8.toNat_ofNat', Nat.mod_eq_of_lt h]

theorem eq_ofNat {b : UInt8} {n : Nat} (h : b.toNat = n) : b = UInt8.ofNat n := by
  rw [← h, UInt8.ofNat_toNat]

/-! ## Digits in base 64 -/

/-- The bytes that write the last `n` digits in base 64 of a number, most significant first. -/
def tail : Nat → Nat → Bytes
  | 0, _ => []
  | n + 1, x => UInt8.ofNat (0x80 + x / 64 ^ n % 64) :: tail n x

@[simp] theorem length_tail (n x : Nat) : (tail n x).length = n := by
  induction n with
  | zero => rfl
  | succ n ih => rw [tail, List.length_cons, ih]

/-- The next digit after those that were read. -/
theorem div_pow_succ_mul_add_mod (x n : Nat) :
    x / 64 ^ (n + 1) * 64 + x / 64 ^ n % 64 = x / 64 ^ n := by
  rw [Nat.pow_succ, ← Nat.div_div_eq_div_mul]
  omega

/-- The first byte of a tail, if there is one, lies in a window. -/
def TailIn (low high : UInt8) (n x : Nat) : Prop :=
  ∀ b ∈ (tail n x).head?, low ≤ b ∧ b ≤ high

/-- A tail lies in the window of all bytes that continue a character. -/
theorem tailIn_continuation (n x : Nat) : TailIn 0x80 0xbf n x := by
  intro b hb
  cases n with
  | zero => cases hb
  | succ n =>
      obtain rfl : UInt8.ofNat (0x80 + x / 64 ^ n % 64) = b := by simpa [tail] using hb
      have hdigit : x / 64 ^ n % 64 < 64 := Nat.mod_lt _ (by decide)
      simp only [UInt8.le_iff_toNat_le]
      rw [toNat_ofNat (by omega)]
      exact ⟨by simp, by simp; omega⟩

section ContinueChar

variable {lead : Lead}

/-- The tail of a number is read as the number. -/
theorem continueChar_tail {n x : Nat} {low high : UInt8} (h : TailIn low high n x) (size : Nat)
    (rest : Bytes) :
    continueChar lead n low high (x / 64 ^ n) size (tail n x ++ rest) =
      .char (Char.ofNat x) (size + n) := by
  induction n generalizing low high size with
  | zero => simp [continueChar]
  | succ n ih =>
      have hdigit : x / 64 ^ n % 64 < 64 := Nat.mod_lt _ (by decide)
      rw [tail, List.cons_append, continueChar, if_pos (h _ rfl), toNat_ofNat (by omega),
        Nat.add_sub_cancel_left, div_pow_succ_mul_add_mod, ih (tailIn_continuation n x)]
      congr 1
      omega

/-- A part of a tail ends too early. -/
theorem continueChar_of_part {n x : Nat} {low high : UInt8} (h : TailIn low high n x)
    {part : Bytes} (hpart : part <+: tail n x) (hshort : part.length < n) (value size : Nat) :
    ∃ k, continueChar lead n low high value size part = .fault .unexpectedEnd k := by
  induction n generalizing low high part value size with
  | zero => exact absurd hshort (Nat.not_lt_zero _)
  | succ n ih =>
      cases part with
      | nil => exact ⟨size, rfl⟩
      | cons b part =>
          rw [tail, List.cons_prefix_cons] at hpart
          obtain ⟨rfl, hpart⟩ := hpart
          rw [continueChar, if_pos (h _ rfl)]
          exact ih (tailIn_continuation n x) hpart (Nat.lt_of_succ_lt_succ hshort) _ _

/-- What is read is the tail of a number. -/
theorem exists_tail_of_continueChar {n value size k : Nat} {low high : UInt8} {bs : Bytes}
    {c : Char} (hlow : 0x80 ≤ low) (hhigh : high ≤ 0xbf)
    (h : continueChar lead n low high value size bs = .char c k) :
    ∃ x rest, x / 64 ^ n = value ∧ bs = tail n x ++ rest ∧ TailIn low high n x ∧
      c = Char.ofNat x ∧ k = size + n := by
  induction n generalizing low high value size bs with
  | zero =>
      rw [continueChar, Step.char.injEq] at h
      exact ⟨value, bs, by simp, rfl, nofun, h.1.symm, h.2.symm⟩
  | succ n ih =>
      cases bs with
      | nil => cases h
      | cons b bs =>
          rw [continueChar] at h
          split at h
          · next hb =>
            obtain ⟨x, rest, hx, rfl, -, rfl, rfl⟩ := ih (by decide) (by decide) h
            rw [UInt8.le_iff_toNat_le] at hlow hhigh
            have hb' := hb
            simp only [UInt8.le_iff_toNat_le] at hb'
            have hbounds : 0x80 ≤ b.toNat ∧ b.toNat ≤ 0xbf :=
              ⟨Nat.le_trans hlow hb'.1, Nat.le_trans hb'.2 hhigh⟩
            have hdigit := div_pow_succ_mul_add_mod x n
            have hbyte : b = UInt8.ofNat (0x80 + x / 64 ^ n % 64) := eq_ofNat (by omega)
            refine ⟨x, rest, by omega, ?_, ?_, rfl, by omega⟩
            · rw [tail, ← hbyte, List.cons_append]
            · intro b' hb''
              rw [tail, List.head?_cons, Option.mem_some_iff, ← hbyte] at hb''
              exact hb'' ▸ hb
          · cases h

end ContinueChar

/-! ## Lead bytes -/

/-- The lead bytes, with the bits of the character that they hold. -/
inductive LeadByte : UInt8 → Lead → Prop
  | two {k : Nat} : 2 ≤ k → k < 0x20 → LeadByte (.ofNat (0xc0 + k)) ⟨1, k, 0x80, 0xbf⟩
  | three {k : Nat} : k < 0x10 →
      LeadByte (.ofNat (0xe0 + k))
        ⟨2, k, if k = 0 then 0xa0 else 0x80, if k = 0xd then 0x9f else 0xbf⟩
  | four {k : Nat} : k < 5 →
      LeadByte (.ofNat (0xf0 + k))
        ⟨3, k, if k = 0 then 0x90 else 0x80, if k = 4 then 0x8f else 0xbf⟩

/-- The table of lead bytes, by their numbers. -/
theorem leadByte?_ofNat {n : Nat} (h : n < 256) :
    leadByte? (.ofNat n) =
      if n < 0xc2 then none
      else if n ≤ 0xdf then some ⟨1, n - 0xc0, 0x80, 0xbf⟩
      else if n = 0xe0 then some ⟨2, 0, 0xa0, 0xbf⟩
      else if n = 0xed then some ⟨2, 0xd, 0x80, 0x9f⟩
      else if n ≤ 0xef then some ⟨2, n - 0xe0, 0x80, 0xbf⟩
      else if n = 0xf0 then some ⟨3, 0, 0x90, 0xbf⟩
      else if n ≤ 0xf3 then some ⟨3, n - 0xf0, 0x80, 0xbf⟩
      else if n = 0xf4 then some ⟨3, 4, 0x80, 0x8f⟩
      else none := by
  simp only [leadByte?, UInt8.lt_iff_toNat_lt, UInt8.le_iff_toNat_le, ← UInt8.toNat_inj,
    toNat_ofNat h]
  rfl

theorem leadByte?_of_leadByte {b : UInt8} {lead : Lead} (h : LeadByte b lead) :
    leadByte? b = some lead := by
  cases h with
  | two hlo hhi =>
      rw [leadByte?_ofNat (by omega), if_neg (by omega), if_pos (by omega), Nat.add_sub_cancel_left]
  | three hk =>
      rename_i k
      rw [leadByte?_ofNat (by omega), if_neg (by omega), if_neg (by omega)]
      by_cases h0 : k = 0
      · subst h0
        rfl
      · by_cases hd : k = 0xd
        · subst hd
          rfl
        · rw [if_neg (by omega), if_neg (by omega), if_pos (by omega), if_neg h0, if_neg hd,
            Nat.add_sub_cancel_left]
  | four hk =>
      rename_i k
      rw [leadByte?_ofNat (by omega), if_neg (by omega), if_neg (by omega), if_neg (by omega),
        if_neg (by omega), if_neg (by omega)]
      by_cases h0 : k = 0
      · subst h0
        rfl
      · by_cases h4 : k = 4
        · subst h4
          rfl
        · rw [if_neg (by omega), if_pos (by omega), if_neg h0, if_neg h4, Nat.add_sub_cancel_left]

theorem leadByte_of_leadByte? {b : UInt8} {lead : Lead} (h : leadByte? b = some lead) :
    LeadByte b lead := by
  obtain ⟨n, hn, rfl⟩ : ∃ n, n < 256 ∧ UInt8.ofNat n = b :=
    ⟨b.toNat, b.toNat_lt, UInt8.ofNat_toNat⟩
  rw [leadByte?_ofNat hn] at h
  split at h
  · cases h
  split at h
  · next hlo hhi =>
    cases h
    have hform := LeadByte.two (k := n - 0xc0) (by omega) (by omega)
    rwa [Nat.add_sub_cancel' (by omega)] at hform
  split at h
  · next hn =>
    cases h
    subst hn
    exact LeadByte.three (k := 0) (by decide)
  split at h
  · next hn =>
    cases h
    subst hn
    exact LeadByte.three (k := 0xd) (by decide)
  split at h
  · cases h
    have hform := LeadByte.three (k := n - 0xe0) (by omega)
    rwa [Nat.add_sub_cancel' (by omega), if_neg (by omega), if_neg (by omega)] at hform
  split at h
  · next hn =>
    cases h
    subst hn
    exact LeadByte.four (k := 0) (by decide)
  split at h
  · cases h
    have hform := LeadByte.four (k := n - 0xf0) (by omega)
    rwa [Nat.add_sub_cancel' (by omega), if_neg (by omega), if_neg (by omega)] at hform
  split at h
  · next hn =>
    cases h
    subst hn
    exact LeadByte.four (k := 4) (by decide)
  · cases h

/-! ## Characters -/

theorem toNat_charOfNat {x : Nat} (h : x.isValidChar) : (Char.ofNat x).toNat = x := by
  unfold Char.ofNat
  rw [dif_pos h]
  rfl

/-- How a character is written, by the number of its bytes. -/
theorem encodeChar_eq (c : Char) :
    encodeChar c =
      if c.toNat < 0x80 then [.ofNat c.toNat]
      else if c.toNat < 0x800 then .ofNat (0xc0 + c.toNat / 64 ^ 1) :: tail 1 c.toNat
      else if c.toNat < 0x10000 then .ofNat (0xe0 + c.toNat / 64 ^ 2) :: tail 2 c.toNat
      else .ofNat (0xf0 + c.toNat / 64 ^ 3) :: tail 3 c.toNat := by
  have hval : c.val.toNat = c.toNat := rfl
  have hmax : c.toNat < 0x110000 := by
    have hvalid : c.toNat.isValidChar := c.valid
    omega
  simp only [encodeChar, String.utf8EncodeChar, hval, tail]
  generalize c.toNat = x at hmax
  by_cases h1 : x < 0x80
  · rw [if_pos (show x ≤ 0x7f by omega), if_pos h1]
  by_cases h2 : x < 0x800
  · rw [if_neg (show ¬ x ≤ 0x7f by omega), if_pos (show x ≤ 0x7ff by omega), if_neg h1, if_pos h2]
    simp only [List.cons.injEq, and_true]
    refine ⟨?_, ?_⟩ <;> congr 1 <;> omega
  by_cases h3 : x < 0x10000
  · rw [if_neg (show ¬ x ≤ 0x7f by omega), if_neg (show ¬ x ≤ 0x7ff by omega),
      if_pos (show x ≤ 0xffff by omega), if_neg h1, if_neg h2, if_pos h3]
    simp only [List.cons.injEq, and_true]
    refine ⟨?_, ?_, ?_⟩ <;> congr 1 <;> omega
  · rw [if_neg (show ¬ x ≤ 0x7f by omega), if_neg (show ¬ x ≤ 0x7ff by omega),
      if_neg (show ¬ x ≤ 0xffff by omega), if_neg h1, if_neg h2, if_neg h3]
    simp only [List.cons.injEq, and_true]
    refine ⟨?_, ?_, ?_, ?_⟩ <;> congr 1 <;> omega

/-- A window that is narrower than that of all continuing bytes below or above, or at both ends. -/
theorem tailIn_narrowed_iff {p q : Prop} [Decidable p] [Decidable q] {low high : UInt8} {n x : Nat} :
    TailIn (if p then low else 0x80) (if q then high else 0xbf) (n + 1) x ↔
      (p → low.toNat ≤ 0x80 + x / 64 ^ n % 64) ∧ (q → 0x80 + x / 64 ^ n % 64 ≤ high.toNat) := by
  have hdigit : x / 64 ^ n % 64 < 64 := Nat.mod_lt _ (by decide)
  have hlow : (0x80 : UInt8).toNat = 0x80 := rfl
  have hhigh : (0xbf : UInt8).toNat = 0xbf := rfl
  simp only [TailIn, tail, List.head?_cons, Option.mem_some_iff, forall_eq', UInt8.le_iff_toNat_le,
    apply_ite UInt8.toNat]
  rw [toNat_ofNat (by omega), hlow, hhigh]
  by_cases hp : p
  · by_cases hq : q
    · simp [hp, hq]
    · simp only [hp, hq, if_true, if_false, true_implies, false_implies, and_true]
      omega
  · by_cases hq : q
    · simp only [hp, hq, if_true, if_false, true_implies, false_implies, true_and]
      omega
    · simp only [hp, hq, if_false, false_implies, and_true, iff_true]
      omega

/-- The windows after the lead bytes of three keep out overlong forms and surrogates. -/
theorem tailIn_three_iff {x : Nat} :
    TailIn (if x / 64 ^ 2 = 0 then 0xa0 else 0x80) (if x / 64 ^ 2 = 0xd then 0x9f else 0xbf) 2 x ↔
      (x / 64 ^ 2 = 0 → 0x800 ≤ x) ∧ (x / 64 ^ 2 = 0xd → x < 0xd800) := by
  have hlow : (0xa0 : UInt8).toNat = 0xa0 := rfl
  have hhigh : (0x9f : UInt8).toNat = 0x9f := rfl
  rw [tailIn_narrowed_iff, hlow, hhigh]
  omega

/-- The windows after the lead bytes of four keep out overlong forms and what lies beyond the last
code point. -/
theorem tailIn_four_iff {x : Nat} :
    TailIn (if x / 64 ^ 3 = 0 then 0x90 else 0x80) (if x / 64 ^ 3 = 4 then 0x8f else 0xbf) 3 x ↔
      (x / 64 ^ 3 = 0 → 0x10000 ≤ x) ∧ (x / 64 ^ 3 = 4 → x < 0x110000) := by
  have hlow : (0x90 : UInt8).toNat = 0x90 := rfl
  have hhigh : (0x8f : UInt8).toNat = 0x8f := rfl
  rw [tailIn_narrowed_iff, hlow, hhigh]
  omega

/-- **A lead byte and a tail** write the number `x`: the lead byte holds the bits above the tail, and
the tail begins in the window that the lead byte sets. -/
structure Writes (b : UInt8) (lead : Lead) (x : Nat) : Prop where
  /-- The lead byte is one. -/
  leadByte : LeadByte b lead
  /-- It holds the bits above the tail. -/
  bits : x / 64 ^ lead.more = lead.bits
  /-- The tail begins in its window. -/
  tailIn : TailIn lead.low lead.high lead.more x

/-- A character beyond the ASCII alphabet is written by a lead byte and a tail. -/
theorem exists_writes (c : Char) (h : ¬ c.toNat < 0x80) :
    ∃ b lead, Writes b lead c.toNat ∧ encodeChar c = b :: tail lead.more c.toNat := by
  have hvalid : c.toNat.isValidChar := c.valid
  rw [encodeChar_eq, if_neg h]
  generalize c.toNat = x at h hvalid
  by_cases h2 : x < 0x800
  · rw [if_pos h2]
    refine ⟨_, _, ⟨.two (k := x / 64 ^ 1) (by omega) (by omega), rfl, ?_⟩, rfl⟩
    exact tailIn_continuation 1 x
  by_cases h3 : x < 0x10000
  · rw [if_neg h2, if_pos h3]
    refine ⟨_, _, ⟨.three (k := x / 64 ^ 2) (by omega), rfl, ?_⟩, rfl⟩
    exact tailIn_three_iff.mpr ⟨fun _ => by omega, fun _ => by omega⟩
  · rw [if_neg h2, if_neg h3]
    refine ⟨_, _, ⟨.four (k := x / 64 ^ 3) (by omega), rfl, ?_⟩, rfl⟩
    exact tailIn_four_iff.mpr ⟨fun _ => by omega, fun _ => by omega⟩

/-- What a lead byte and a tail write is a character. -/
theorem encodeChar_of_writes {b : UInt8} {lead : Lead} {x : Nat} (h : Writes b lead x) :
    encodeChar (Char.ofNat x) = b :: tail lead.more x := by
  obtain ⟨hlead, hbits, hin⟩ := h
  cases hlead with
  | two hlo hhi =>
      simp only at hbits
      have hvalid : x.isValidChar := Or.inl (by omega)
      rw [encodeChar_eq, toNat_charOfNat hvalid, if_neg (by omega), if_pos (by omega), hbits]
  | three hk =>
      simp only at hbits
      subst hbits
      obtain ⟨hlo, hhi⟩ := tailIn_three_iff.mp hin
      have hvalid : x.isValidChar := by
        unfold Nat.isValidChar
        omega
      rw [encodeChar_eq, toNat_charOfNat hvalid, if_neg (by omega), if_neg (by omega),
        if_pos (by omega)]
  | four hk =>
      simp only at hbits
      subst hbits
      obtain ⟨hlo, hhi⟩ := tailIn_four_iff.mp hin
      have hvalid : x.isValidChar := by
        unfold Nat.isValidChar
        omega
      rw [encodeChar_eq, toNat_charOfNat hvalid, if_neg (by omega), if_neg (by omega),
        if_neg (by omega)]

/-! ## The beginning of some bytes -/

theorem LeadByte.window {b : UInt8} {lead : Lead} (h : LeadByte b lead) :
    ¬ b < 0x80 ∧ 0x80 ≤ lead.low ∧ lead.high ≤ 0xbf := by
  have hnot : ∀ {n : Nat}, 0x80 ≤ n → n < 256 → ¬ UInt8.ofNat n < 0x80 := by
    intro n hlo hhi hlt
    rw [UInt8.lt_iff_toNat_lt, toNat_ofNat hhi] at hlt
    have : (0x80 : UInt8).toNat = 0x80 := rfl
    omega
  cases h with
  | two hlo hhi => exact ⟨hnot (by omega) (by omega), UInt8.le_refl _, UInt8.le_refl _⟩
  | three hk => exact ⟨hnot (by omega) (by omega), by dsimp; split <;> decide, by dsimp; split <;> decide⟩
  | four hk => exact ⟨hnot (by omega) (by omega), by dsimp; split <;> decide, by dsimp; split <;> decide⟩

/-- A byte that begins a character of several bytes. -/
theorem step_of_leadByte {b : UInt8} {lead : Lead} (h : LeadByte b lead) (bs : Bytes) :
    step b bs = continueChar lead lead.more lead.low lead.high lead.bits 1 bs := by
  rw [step, if_neg h.window.1, leadByte?_of_leadByte h]

/-- A byte of the ASCII alphabet is a character. -/
theorem step_of_lt {b : UInt8} (h : b < 0x80) (bs : Bytes) :
    step b bs = .char (Char.ofNat b.toNat) 1 := by
  rw [step, if_pos h]

theorem encodeChar_of_lt {b : UInt8} (h : b < 0x80) : encodeChar (Char.ofNat b.toNat) = [b] := by
  rw [UInt8.lt_iff_toNat_lt] at h
  have hnum : (0x80 : UInt8).toNat = 0x80 := rfl
  rw [encodeChar_eq, toNat_charOfNat (Or.inl (by omega)), if_pos (by omega), UInt8.ofNat_toNat]

/-- **A character stands at the beginning of some bytes** exactly if they begin with its encoding. -/
theorem step_eq_char_iff {b : UInt8} {bs : Bytes} {c : Char} {size : Nat} :
    step b bs = .char c size ↔
      size = (encodeChar c).length ∧ ∃ rest, b :: bs = encodeChar c ++ rest := by
  constructor
  · intro h
    by_cases hb : b < 0x80
    · rw [step_of_lt hb, Step.char.injEq] at h
      obtain ⟨rfl, rfl⟩ := h
      rw [encodeChar_of_lt hb]
      exact ⟨rfl, bs, rfl⟩
    · cases hlead : leadByte? b with
      | none => rw [step, if_neg hb, hlead] at h; cases h
      | some lead =>
          have hform := leadByte_of_leadByte? hlead
          rw [step_of_leadByte hform] at h
          obtain ⟨-, hlow, hhigh⟩ := hform.window
          obtain ⟨x, rest, hbits, rfl, hin, rfl, rfl⟩ :=
            exists_tail_of_continueChar hlow hhigh h
          rw [encodeChar_of_writes ⟨hform, hbits, hin⟩, List.length_cons, length_tail]
          exact ⟨Nat.add_comm _ _, rest, rfl⟩
  · rintro ⟨rfl, rest, heq⟩
    by_cases hc : c.toNat < 0x80
    · have henc : encodeChar c = [.ofNat c.toNat] := by rw [encodeChar_eq, if_pos hc]
      rw [henc] at heq ⊢
      obtain ⟨rfl, rfl⟩ := List.cons.inj heq
      have hlt : UInt8.ofNat c.toNat < 0x80 := by
        rw [UInt8.lt_iff_toNat_lt, toNat_ofNat (by omega)]
        exact hc
      rw [step_of_lt hlt, toNat_ofNat (by omega), Char.ofNat_toNat]
      rfl
    · obtain ⟨b', lead, hwrites, henc⟩ := exists_writes c hc
      rw [henc] at heq ⊢
      rw [List.cons_append] at heq
      obtain ⟨rfl, rfl⟩ := List.cons.inj heq
      rw [step_of_leadByte hwrites.leadByte, ← hwrites.bits, continueChar_tail hwrites.tailIn,
        Char.ofNat_toNat, List.length_cons, length_tail, Nat.add_comm]

/-- **A part of a character** is found to end too early. -/
theorem step_of_part {b : UInt8} {bs : Bytes} {c : Char} (hpart : b :: bs <+: encodeChar c)
    (hne : b :: bs ≠ encodeChar c) : ∃ k, step b bs = .fault .unexpectedEnd k := by
  by_cases hc : c.toNat < 0x80
  · have henc : encodeChar c = [.ofNat c.toNat] := by rw [encodeChar_eq, if_pos hc]
    rw [henc] at hpart hne
    obtain ⟨rfl, hnil⟩ := List.cons_prefix_cons.mp hpart
    rw [List.prefix_nil.mp hnil] at hne
    exact absurd rfl hne
  · obtain ⟨b', lead, hwrites, henc⟩ := exists_writes c hc
    rw [henc] at hpart hne
    obtain ⟨rfl, htail⟩ := List.cons_prefix_cons.mp hpart
    have hshort : bs.length < lead.more := by
      have hle := htail.length_le
      rw [length_tail] at hle
      refine Nat.lt_of_le_of_ne hle fun hlen => hne ?_
      rw [htail.eq_of_length (by rw [hlen, length_tail])]
    rw [step_of_leadByte hwrites.leadByte]
    exact continueChar_of_part hwrites.tailIn htail hshort _ _

end Utf8

end TextShell
