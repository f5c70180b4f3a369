/-!
# Text

A text is the list of its characters, so that every operation on text is an operation on lists and
positions, lengths and counts are in characters. String literals stand for their characters.

The characters are the scalar values of Unicode, and surrogates are none: bytes of an argument or of
an environment variable that are no UTF-8 are not texts.

## Main Definitions

* `Text` — a list of characters
* `Text.pieces` — the parts of a text between its separators
* `Text.joinWith` — parts joined by a separator
* `Text.ofNat`, `Text.ofInt`, `Text.ofHex` — numbers written in decimal and hexadecimal
* `Text.notAfter` — the alphabetical order, by code points
-/

namespace TextShell

/-- A text: its characters in order. -/
abbrev Text := List Char

instance : Coe String Text := ⟨String.toList⟩

namespace Text

/-- The parts of a text between the characters that satisfy `sep`. There is one part more than there
are separators, so the empty text has one empty part. -/
def piecesBy (sep : Char → Bool) : Text → List Text
  | [] => [[]]
  | c :: cs =>
    if sep c then [] :: piecesBy sep cs
    else
      match piecesBy sep cs with
      | [] => [[c]]
      | part :: parts => (c :: part) :: parts

/-- The parts of a text between the occurrences of one character. -/
def pieces (sep : Char) : Text → List Text :=
  piecesBy (· == sep)

/-- Texts joined with a separator between neighbours. -/
def joinWith (sep : Text) : List Text → Text
  | [] => []
  | [t] => t
  | t :: ts => t ++ sep ++ joinWith sep ts

/-- A natural number in decimal. -/
def ofNat (n : Nat) : Text :=
  Nat.toDigits 10 n

/-- An integer in decimal, with a minus sign when it is negative. -/
def ofInt : Int → Text
  | .ofNat n => ofNat n
  | .negSucc n => '-' :: ofNat (n + 1)

/-- A number in lowercase hexadecimal, filled up with zeros to `width` digits. -/
def ofHex (width n : Nat) : Text :=
  let digits := Nat.toDigits 16 n
  List.replicate (width - digits.length) '0' ++ digits

/-- Whether the first text stands before the second or is the same, by code points. A text stands
before its continuations. -/
def notAfter : Text → Text → Bool
  | [], _ => true
  | _ :: _, [] => false
  | a :: as, b :: bs => decide (a.toNat < b.toNat) || a == b && notAfter as bs

/-- Whether `start` is how the text begins. -/
def startsWith (start t : Text) : Bool :=
  start.isPrefixOf t

/-- The value of a hexadecimal digit. -/
def hexValue? (c : Char) : Option Nat :=
  if '0' ≤ c ∧ c ≤ '9' then some (c.toNat - '0'.toNat)
  else if 'a' ≤ c ∧ c ≤ 'f' then some (c.toNat - 'a'.toNat + 10)
  else if 'A' ≤ c ∧ c ≤ 'F' then some (c.toNat - 'A'.toNat + 10)
  else none

/-- The value of digits in a base, most significant first. -/
def valueOf (base : Nat) (digits : List Nat) : Nat :=
  digits.foldl (fun n d => base * n + d) 0

/-- The separators give one part each, and one more. -/
theorem length_piecesBy (sep : Char → Bool) (t : Text) :
    (piecesBy sep t).length = t.countP sep + 1 := by
  induction t with
  | nil => rfl
  | cons c cs ih =>
    by_cases h : sep c
    · simp [piecesBy, h, ih]
    · cases hp : piecesBy sep cs with
      | nil => simp [hp] at ih
      | cons part parts =>
        simp only [hp, List.length_cons, Nat.add_right_cancel_iff] at ih
        simp [piecesBy, h, hp, ih]

/-- There is always a part. -/
theorem piecesBy_ne_nil (sep : Char → Bool) (t : Text) : piecesBy sep t ≠ [] := by
  intro h
  simpa [h] using length_piecesBy sep t

/-- No part holds a separator. -/
theorem not_sep_of_mem_piecesBy {sep : Char → Bool} {t part : Text} {c : Char}
    (hp : part ∈ piecesBy sep t) (hc : c ∈ part) : sep c = false := by
  induction t generalizing part with
  | nil => simp_all [piecesBy]
  | cons d ds ih =>
    by_cases h : sep d
    · simp only [piecesBy, h, if_true, List.mem_cons] at hp
      rcases hp with rfl | hp
      · simp at hc
      · exact ih hp hc
    · cases hq : piecesBy sep ds with
      | nil => exact absurd hq (piecesBy_ne_nil sep ds)
      | cons first parts =>
        simp only [piecesBy, h, hq, Bool.false_eq_true, if_false, List.mem_cons] at hp
        rcases hp with rfl | hp
        · rcases List.mem_cons.mp hc with rfl | hc
          · simpa using h
          · exact ih (by simp [hq]) hc
        · exact ih (by simp [hq, hp]) hc

/-- A text without separators is a single part. -/
theorem piecesBy_of_no_sep {sep : Char → Bool} {t : Text} (h : ∀ c ∈ t, sep c = false) :
    piecesBy sep t = [t] := by
  induction t with
  | nil => rfl
  | cons c cs ih =>
    have hcs := ih fun d hd => h d (List.mem_cons_of_mem _ hd)
    simp [piecesBy, h c List.mem_cons_self, hcs]

/-- A text without separators is the first part when a separator follows it. -/
theorem piecesBy_append_cons {sep : Char → Bool} {t : Text} (h : ∀ c ∈ t, sep c = false) {s : Char}
    (hs : sep s = true) (rest : Text) :
    piecesBy sep (t ++ s :: rest) = t :: piecesBy sep rest := by
  induction t with
  | nil => simp [piecesBy, hs]
  | cons c cs ih =>
    have hcs := ih fun d hd => h d (List.mem_cons_of_mem _ hd)
    simp [piecesBy, h c List.mem_cons_self, hcs]

/-- No part holds the character that separates. -/
theorem not_mem_of_mem_pieces {sep : Char} {t part : Text} (h : part ∈ pieces sep t) :
    sep ∉ part := by
  intro hc
  have hsep := not_sep_of_mem_piecesBy h hc
  simp at hsep

/-- A text without the character that separates is a single part. -/
theorem pieces_of_not_mem {sep : Char} {t : Text} (h : sep ∉ t) : pieces sep t = [t] :=
  piecesBy_of_no_sep fun c hc => by simpa using fun e : c = sep => h (e ▸ hc)

/-- A text without the character that separates is the first part when that character follows it. -/
theorem pieces_append_cons {sep : Char} {t : Text} (h : sep ∉ t) (rest : Text) :
    pieces sep (t ++ sep :: rest) = t :: pieces sep rest :=
  piecesBy_append_cons (fun c hc => by simpa using fun e : c = sep => h (e ▸ hc)) (by simp) rest

/-- A part in front of joined parts. -/
theorem joinWith_cons (sep t : Text) {ts : List Text} (h : ts ≠ []) :
    joinWith sep (t :: ts) = t ++ sep ++ joinWith sep ts := by
  cases ts with
  | nil => exact absurd rfl h
  | cons u us => rfl

end Text

end TextShell
