import TextShell.Proofs.Text.Utf8.Blocks

/-!
# Text that is read back

The lenient reading takes whatever bytes it meets.  On encoded text it meets no fault: a character is
found where it was written, with as many bytes as it was written with (`exists_step_eq_char`), so the
reading gives back the text, line ends, null characters and byte order marks included
(`decodeLossy_encode`).  Bytes may follow that are no text (`decodeLossy_encode_append`).
-/

namespace TextShell

namespace Utf8

/-- **Encoded text is read first**, whatever bytes follow it. -/
theorem decodeLossy_encode_append (t : Text) (bytes : Bytes) :
    decodeLossy (encode t ++ bytes) = t ++ decodeLossy bytes := by
  induction t with
  | nil => rfl
  | cons c t ih =>
      obtain ⟨b, bs, heq, hchar, hdrop⟩ := exists_step_eq_char c (encode t ++ bytes)
      rw [encode_cons, List.append_assoc, heq, decodeLossy, hchar]
      simp only [hdrop, ih, List.cons_append]

/-- **Text that is written and read back** is the same. -/
@[simp] theorem decodeLossy_encode (t : Text) : decodeLossy (encode t) = t := by
  have h := decodeLossy_encode_append t []
  rwa [List.append_nil, decodeLossy, List.append_nil] at h

/-- Only no bytes at all are read as no text. -/
theorem decodeLossy_eq_nil_iff {bytes : Bytes} : decodeLossy bytes = [] ↔ bytes = [] := by
  cases bytes with
  | nil => simp [decodeLossy]
  | cons b bs =>
      rw [decodeLossy]
      cases step b bs <;> simp

/-- The bytes of several texts, one after the other, are those of the texts put together. -/
theorem flatten_map_encode (ts : List Text) : (ts.map encode).flatten = encode ts.flatten := by
  induction ts with
  | nil => rfl
  | cons t ts ih => rw [List.map_cons, List.flatten_cons, ih, List.flatten_cons, encode_append]

end Utf8

end TextShell
