import TextShell.Proofs.Text.Utf8.Step

/-!
# Bytes that are UTF-8

Bytes are UTF-8 if they are the encoding of a text.  The strict reading finds that text if there is
one, and a fault if there is none, whatever blocks the bytes arrive in (`decodeBlocks_eq_ok_iff`).

What a block hands over to the next one is empty or begins with a fault (`Unreadable`).  This is the
invariant of reading in blocks: at the end of the bytes nothing unreadable is left over exactly if
nothing is left over.
-/

namespace TextShell

namespace Utf8

/-- Bytes at whose beginning no character stands. -/
def Unreadable : Bytes → Prop
  | [] => True
  | b :: bs => ∃ f k, step b bs = .fault f k

theorem unreadable_nil : Unreadable [] := trivial

theorem encode_cons (c : Char) (t : Text) : encode (c :: t) = encodeChar c ++ encode t := rfl

theorem encode_append (t u : Text) : encode (t ++ u) = encode t ++ encode u :=
  List.flatMap_append

theorem encodeChar_ne_nil (c : Char) : encodeChar c ≠ [] := by
  intro h
  have hlen := String.length_utf8EncodeChar c
  have hpos := Char.utf8Size_pos c
  rw [show String.utf8EncodeChar c = [] from h] at hlen
  simp only [List.length_nil] at hlen
  omega

/-- A character that is found, and what is left after it, make up the bytes. -/
theorem cons_eq_of_step_eq_char {b : UInt8} {bs : Bytes} {c : Char} {size : Nat}
    (h : step b bs = .char c size) : b :: bs = encodeChar c ++ bs.drop (size - 1) := by
  obtain ⟨rfl, rest, heq⟩ := step_eq_char_iff.mp h
  cases hc : encodeChar c with
  | nil => exact absurd hc (encodeChar_ne_nil c)
  | cons b' bs' =>
      rw [hc, List.cons_append] at heq
      obtain ⟨rfl, rfl⟩ := List.cons.inj heq
      rw [List.length_cons, Nat.add_sub_cancel, List.drop_left, List.cons_append]

/-- Encoded text begins with a character. -/
theorem exists_step_eq_char (c : Char) (rest : Bytes) :
    ∃ b bs, encodeChar c ++ rest = b :: bs ∧ step b bs = .char c (encodeChar c).length ∧
      bs.drop ((encodeChar c).length - 1) = rest := by
  cases hc : encodeChar c with
  | nil => exact absurd hc (encodeChar_ne_nil c)
  | cons b bs =>
      refine ⟨b, bs ++ rest, rfl, step_eq_char_iff.mpr ⟨by rw [hc], rest, by rw [hc]; rfl⟩, ?_⟩
      rw [List.length_cons, Nat.add_sub_cancel, List.drop_left]

/-- Encoded text is readable unless it is empty. -/
theorem eq_nil_of_unreadable_encode {t : Text} (h : Unreadable (encode t)) : t = [] := by
  cases t with
  | nil => rfl
  | cons c t =>
      obtain ⟨b, bs, heq, hchar, -⟩ := exists_step_eq_char c (encode t)
      rw [encode_cons, heq] at h
      obtain ⟨f, k, hfault⟩ := h
      rw [hchar] at hfault
      cases hfault

/-! ## One block -/

/-- What a block is read as, and what it hands over, make up the block. -/
theorem decodeBlock_sound {pos : Nat} {block rest : Bytes} {t : Text}
    (h : decodeBlock pos block = .ok (t, rest)) :
    encode t ++ rest = block ∧ Unreadable rest := by
  fun_induction decodeBlock pos block generalizing t rest with
  | case1 pos =>
      cases h
      exact ⟨rfl, trivial⟩
  | case2 pos b bs c size hstep t' rest' hrec ih =>
      cases h
      obtain ⟨heq, hrest⟩ := ih hrec
      rw [cons_eq_of_step_eq_char hstep, encode_cons, List.append_assoc, heq]
      exact ⟨rfl, hrest⟩
  | case3 => cases h
  | case4 pos b bs size hstep =>
      cases h
      exact ⟨rfl, _, _, hstep⟩
  | case5 pos b bs f size hf hstep hcut =>
      cases h
      exact ⟨rfl, _, _, hstep⟩
  | case6 => cases h

/-- A block of encoded text is read without a fault. -/
theorem exists_decodeBlock_of_prefix {t : Text} {block : Bytes} (h : block <+: encode t)
    (pos : Nat) : ∃ u v rest, t = u ++ v ∧ decodeBlock pos block = .ok (u, rest) := by
  induction t generalizing block pos with
  | nil =>
      rw [List.prefix_nil.mp h]
      exact ⟨[], [], [], rfl, by rw [decodeBlock]⟩
  | cons c t ih =>
      rcases List.prefix_or_prefix_of_prefix h (List.prefix_append (encodeChar c) (encode t)) with
        hpart | hwhole
      · by_cases hall : block = encodeChar c
        · obtain ⟨b, bs, heq, hchar, hdrop⟩ := exists_step_eq_char c []
          rw [List.append_nil] at heq
          refine ⟨[c], t, [], rfl, ?_⟩
          rw [hall, heq, decodeBlock, hchar]
          simp only [hdrop, decodeBlock]
        · cases block with
          | nil => exact ⟨[], c :: t, [], rfl, by rw [decodeBlock]⟩
          | cons b bs =>
              obtain ⟨k, hfault⟩ := step_of_part hpart hall
              exact ⟨[], c :: t, b :: bs, rfl, by rw [decodeBlock, hfault]⟩
      · obtain ⟨more, rfl⟩ := hwhole
        rw [encode_cons, List.prefix_append_right_inj] at h
        obtain ⟨b, bs, heq, hchar, hdrop⟩ := exists_step_eq_char c more
        obtain ⟨u, v, rest, rfl, hrec⟩ := ih h (pos + (encodeChar c).length)
        refine ⟨c :: u, v, rest, rfl, ?_⟩
        rw [heq, decodeBlock, hchar]
        simp only [hdrop, hrec]

/-- Unreadable bytes after which nothing comes are a fault unless there are none. -/
theorem eq_nil_of_cutOffError {bytes : Bytes} (h : Unreadable bytes)
    (hnone : cutOffError bytes = none) : bytes = [] := by
  cases bytes with
  | nil => rfl
  | cons b bs =>
      obtain ⟨f, k, hfault⟩ := h
      rw [cutOffError, hfault] at hnone
      cases hnone

/-! ## All blocks -/

/-- The next block of encoded text, after what was handed over, is read without a fault, and what it
hands over belongs to the text that is left. -/
theorem exists_decodeBlock_of_encode_eq {t : Text} {pending bytes : Bytes}
    (h : encode t = pending ++ bytes) (size : Nat) :
    ∃ u v rest, t = u ++ v ∧ decodeBlock 0 (pending ++ bytes.take size) = .ok (u, rest) ∧
      Unreadable rest ∧ encode v = rest ++ bytes.drop size := by
  have hprefix : pending ++ bytes.take size <+: encode t := by
    rw [h, List.prefix_append_right_inj]
    exact List.take_prefix size bytes
  obtain ⟨u, v, rest, rfl, hblock⟩ := exists_decodeBlock_of_prefix hprefix 0
  obtain ⟨heq, hrest⟩ := decodeBlock_sound hblock
  refine ⟨u, v, rest, rfl, hblock, hrest, ?_⟩
  have hcancel : encode u ++ encode v = encode u ++ (rest ++ bytes.drop size) := by
    rw [← encode_append, h, ← List.append_assoc, heq, List.append_assoc, List.take_append_drop]
  exact List.append_cancel_left hcancel

/-- **Bytes that arrive in blocks are read exactly if they are UTF-8**, after some that were handed
over. -/
theorem decodeBlocks_eq_ok_iff {size : Nat} (hsize : 0 < size) {pending bytes : Bytes}
    (hpending : Unreadable pending) {t : Text} :
    decodeBlocks size pending bytes = .ok t ↔ encode t = pending ++ bytes := by
  constructor
  · intro h
    fun_induction decodeBlocks size pending bytes generalizing t with
    | case1 => cases h
    | case2 pending bytes hend hnone =>
        obtain rfl : bytes = [] := hend.resolve_right (by omega)
        cases h
        rw [List.append_nil] at hnone ⊢
        rw [eq_nil_of_cutOffError hpending hnone]
        rfl
    | case3 => cases h
    | case4 => cases h
    | case5 pending bytes hmore u rest hblock v hrec ih =>
        cases h
        obtain ⟨heq, hrest⟩ := decodeBlock_sound hblock
        rw [encode_append, ih hrest hrec, ← List.append_assoc, heq, List.append_assoc,
          List.take_append_drop]
  · intro h
    induction hlen : bytes.length using Nat.strongRecOn generalizing pending bytes t with
    | _ n ih =>
        rw [decodeBlocks]
        split
        · next hend =>
          obtain rfl : bytes = [] := hend.resolve_right (by omega)
          rw [List.append_nil] at h ⊢
          rw [← h] at hpending
          obtain rfl := eq_nil_of_unreadable_encode hpending
          rw [← h]
          rfl
        · next hmore =>
          obtain ⟨u, v, rest, rfl, hblock, hrest, hv⟩ := exists_decodeBlock_of_encode_eq h size
          have hshorter : (bytes.drop size).length < n := by
            have hpos : bytes.length ≠ 0 := fun h0 =>
              hmore (Or.inl (List.length_eq_zero_iff.mp h0))
            rw [List.length_drop]
            omega
          rw [hblock]
          simp only [ih _ hshorter hrest hv rfl]

/-- **A whole file is read strictly exactly if it is UTF-8.** -/
theorem decodeStrict_eq_ok_iff {bytes : Bytes} {t : Text} :
    decodeStrict bytes = .ok t ↔ bytes = encode t :=
  (decodeBlocks_eq_ok_iff (by decide) unreadable_nil).trans eq_comm

/-- Bytes that are no UTF-8 have a fault. -/
theorem exists_decodeStrict_eq_error {bytes : Bytes} (h : ∀ t : Text, bytes ≠ encode t) :
    ∃ e, decodeStrict bytes = .error e := by
  cases hread : decodeStrict bytes with
  | error e => exact ⟨e, rfl⟩
  | ok t => exact absurd (decodeStrict_eq_ok_iff.mp hread) (h t)

end Utf8

end TextShell
