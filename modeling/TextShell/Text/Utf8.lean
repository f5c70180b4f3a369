import TextShell.Text.Basic

/-!
# UTF-8

A character is written in one to four bytes. Which lead byte is followed by how many others, and in
which window the second byte must lie, is said once in `leadByte?`; the lenient and the strict
reading share it.

## Main Definitions

* `Utf8.encode` — the bytes of a text
* `Utf8.step` — what stands at the start of some bytes: a character, a fault or a cut-off character
* `Utf8.decodeLossy` — reads any bytes, with one replacement character for every fault
* `Utf8.decodeBlocks` — reads bytes that arrive in blocks, and stops at the first fault
-/

namespace TextShell

/-- Bytes in order. -/
abbrev Bytes := List UInt8

namespace Utf8

/-- The bytes of one character. -/
def encodeChar (c : Char) : Bytes :=
  String.utf8EncodeChar c

/-- The bytes of a text. -/
def encode (t : Text) : Bytes :=
  t.flatMap encodeChar

/-- What a lead byte of several says about the bytes that follow it. -/
structure Lead where
  /-- How many bytes follow. -/
  more : Nat
  /-- The bits that the lead byte gives to the character. -/
  bits : Nat
  /-- The least second byte. -/
  low : UInt8
  /-- The greatest second byte. -/
  high : UInt8

/-- The lead bytes of characters written in several bytes. The windows for the second byte leave out
overlong forms, surrogates and what lies beyond the last code point. -/
def leadByte? (b : UInt8) : Option Lead :=
  if b < 0xc2 then none
  else if b ≤ 0xdf then some ⟨1, b.toNat - 0xc0, 0x80, 0xbf⟩
  else if b = 0xe0 then some ⟨2, 0, 0xa0, 0xbf⟩
  else if b = 0xed then some ⟨2, 0xd, 0x80, 0x9f⟩
  else if b ≤ 0xef then some ⟨2, b.toNat - 0xe0, 0x80, 0xbf⟩
  else if b = 0xf0 then some ⟨3, 0, 0x90, 0xbf⟩
  else if b ≤ 0xf3 then some ⟨3, b.toNat - 0xf0, 0x80, 0xbf⟩
  else if b = 0xf4 then some ⟨3, 4, 0x80, 0x8f⟩
  else none

/-- Why bytes are no UTF-8. -/
inductive Fault where
  /-- The first byte begins no character. -/
  | invalidStart
  /-- A byte that should continue a character does not. -/
  | invalidContinuation
  /-- The bytes end inside a character. -/
  | unexpectedEnd
  deriving DecidableEq, Repr

/-- The wording of a fault. -/
def Fault.message : Fault → Text
  | .invalidStart => "invalid start byte"
  | .invalidContinuation => "invalid continuation byte"
  | .unexpectedEnd => "unexpected end of data"

/-- What stands at the start of some bytes. -/
inductive Step where
  /-- A character, and how many bytes it takes. -/
  | char (c : Char) (size : Nat)
  /-- A fault, and how many bytes it spoils. -/
  | fault (f : Fault) (size : Nat)
  deriving DecidableEq, Repr

/-- Reads the bytes that follow a lead byte, of which `size` bytes were read so far. -/
def continueChar (lead : Lead) : Nat → UInt8 → UInt8 → Nat → Nat → Bytes → Step
  | 0, _, _, value, size, _ => .char (Char.ofNat value) size
  | _ + 1, _, _, _, size, [] => .fault .unexpectedEnd size
  | n + 1, low, high, value, size, b :: bs =>
    if low ≤ b ∧ b ≤ high then
      continueChar lead n 0x80 0xbf (value * 64 + (b.toNat - 0x80)) (size + 1) bs
    else .fault .invalidContinuation size

/-- What stands at the start of the bytes `b :: bs`. -/
def step (b : UInt8) (bs : Bytes) : Step :=
  if b < 0x80 then .char (Char.ofNat b.toNat) 1
  else
    match leadByte? b with
    | none => .fault .invalidStart 1
    | some lead => continueChar lead lead.more lead.low lead.high lead.bits 1 bs

/-- The character that stands for bytes that are no UTF-8. -/
def replacement : Char := '\uFFFD'

/-- Reads any bytes as text: every fault becomes one replacement character. -/
def decodeLossy : Bytes → Text
  | [] => []
  | b :: bs =>
    match step b bs with
    | .char c size => c :: decodeLossy (bs.drop (size - 1))
    | .fault _ size => replacement :: decodeLossy (bs.drop (size - 1))
termination_by bs => bs.length
decreasing_by all_goals (simp only [List.length_drop, List.length_cons]; omega)

/-- A fault in a stream of bytes: the bytes it spoils, and where the first of them stands. -/
structure DecodeError where
  fault : Fault
  bytes : Bytes
  position : Nat
  deriving DecidableEq, Repr

/-- The wording of a fault in a stream. -/
def DecodeError.message (e : DecodeError) : Text :=
  let place : Text :=
    match e.bytes with
    | [b] => "byte 0x" ++ Text.ofHex 2 b.toNat ++ " in position " ++ Text.ofNat e.position
    | _ => "bytes in position " ++ Text.ofNat e.position ++ "-" ++
        Text.ofNat (e.position + e.bytes.length - 1)
  "'utf-8' codec can't decode " ++ place ++ ": " ++ e.fault.message

/-- Reads the characters of one block from position `pos` on, up to its end or up to a character
that it cuts off, whose bytes are handed back with the position where they start. The surrogates
cannot be continued, so the block that ends after two bytes of one counts as cut off there. -/
def decodeBlock (pos : Nat) : Bytes → Except DecodeError (Text × Bytes)
  | [] => .ok ([], [])
  | b :: bs =>
    match step b bs with
    | .char c size =>
      match decodeBlock (pos + size) (bs.drop (size - 1)) with
      | .ok (t, rest) => .ok (c :: t, rest)
      | .error e => .error e
    | .fault .unexpectedEnd _ => .ok ([], b :: bs)
    | .fault f size =>
      if b = 0xed ∧ bs.length = 1 ∧ bs.all (fun x => decide (0xa0 ≤ x) && decide (x ≤ 0xbf)) then
        .ok ([], b :: bs)
      else .error ⟨f, (b :: bs).take size, pos⟩
termination_by bs => bs.length
decreasing_by all_goals (simp only [List.length_drop, List.length_cons]; omega)

/-- The fault of a cut-off character after which nothing comes. -/
def cutOffError (bytes : Bytes) : Option DecodeError :=
  match bytes with
  | [] => none
  | b :: bs =>
    match step b bs with
    | .char _ _ => none
    | .fault f size => some ⟨f, (b :: bs).take size, 0⟩

/-- Reads bytes that arrive `size` at a time. A character may lie across blocks. Positions are
counted from the first byte not yet read when the block arrived. -/
def decodeBlocks (size : Nat) (pending : Bytes) (bytes : Bytes) : Except DecodeError Text :=
  if _hne : bytes = [] ∨ size = 0 then
    match cutOffError (pending ++ bytes) with
    | some e => .error e
    | none => .ok []
  else
    match decodeBlock 0 (pending ++ bytes.take size) with
    | .error e => .error e
    | .ok (t, rest) =>
      match decodeBlocks size rest (bytes.drop size) with
      | .error e => .error e
      | .ok t' => .ok (t ++ t')
termination_by bytes.length
decreasing_by
  have : bytes.length ≠ 0 := fun h0 => _hne (.inl (List.length_eq_zero_iff.mp h0))
  simp only [List.length_drop]
  omega

/-- The block size in which a script is read. -/
def blockSize : Nat := 8192

/-- Reads a whole file strictly. -/
def decodeStrict (bytes : Bytes) : Except DecodeError Text :=
  decodeBlocks blockSize [] bytes

end Utf8

end TextShell
