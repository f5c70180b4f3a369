import TextShell.Proofs.Line.Reading
import TextShell.Text.Quoted

/-!
# Quoted texts can be told apart

A written form is self-delimiting if it can be taken off the front of a longer text in one way only.
Written forms that are put together keep the property: one after the other, between brackets, and as
lists whose separator begins differently from what closes them (`SelfDelimiting.joinWith`).

For a quoted text it rests on its characters.  What stands for a character between quotes can be read
back (`unquoteChar_quotedChar`), and it never begins with the quote that ends the text.  So neither a
comma nor a bracket nor a quote inside of a text is taken for one that separates or closes.

## Main Definitions

* `SelfDelimiting` — written forms that end by themselves
* `NeverBegins` — a character that begins no written form
* `Text.unquoteChar` — reads back what stands for a character between quotes
-/

namespace TextShell

/-! ## Written forms that end by themselves -/

/-- **A written form that ends by itself**: whatever follows, no other one begins the same text. -/
def SelfDelimiting {α : Type} (f : α → Text) : Prop :=
  ∀ ⦃a b : α⦄ ⦃r r' : Text⦄, f a ++ r = f b ++ r' → a = b ∧ r = r'

/-- Joined texts are the first one, and the others with the separator in front. -/
theorem Text.joinWith_cons_eq (sep t : Text) (ts : List Text) :
    joinWith sep (t :: ts) = t ++ ts.flatMap (sep ++ ·) := by
  induction ts generalizing t with
  | nil => simp [joinWith]
  | cons u us ih =>
      rw [joinWith_cons sep t (List.cons_ne_nil u us), ih, List.flatMap_cons, List.append_assoc,
        List.append_assoc]

/-- No written form is empty or begins with the character. -/
def NeverBegins {α : Type} (f : α → Text) (c : Char) : Prop :=
  ∀ a, ∃ d t, f a = d :: t ∧ d ≠ c

section Combine

variable {α β : Type} {f : α → Text} {g : β → Text}

theorem NeverBegins.append_ne {e : Char} (h : NeverBegins f e) (a : α) (t u : Text) :
    f a ++ t ≠ e :: u := by
  obtain ⟨d, rest, ha, hd⟩ := h a
  rw [ha]
  exact fun heq => hd (List.cons.inj heq).1

namespace SelfDelimiting

/-- Different things are written differently. -/
theorem eq_of_eq (hf : SelfDelimiting f) {a b : α} (h : f a = f b) : a = b :=
  (hf (congrArg (· ++ []) h)).1

/-- A beginning that is always the same. -/
theorem prepend (hf : SelfDelimiting f) (lead : Text) : SelfDelimiting fun a => lead ++ f a := by
  intro a b r r' h
  rw [List.append_assoc, List.append_assoc] at h
  exact hf (List.append_cancel_left h)

/-- An end that is always the same. -/
theorem close (hf : SelfDelimiting f) (last : Text) : SelfDelimiting fun a => f a ++ last := by
  intro a b r r' h
  rw [List.append_assoc, List.append_assoc] at h
  obtain ⟨hab, hlast⟩ := hf h
  exact ⟨hab, List.append_cancel_left hlast⟩

/-- One written form after the other. -/
theorem pair (hf : SelfDelimiting f) (hg : SelfDelimiting g) :
    SelfDelimiting fun p : α × β => f p.1 ++ g p.2 := by
  rintro ⟨a, b⟩ ⟨a', b'⟩ r r' h
  rw [List.append_assoc, List.append_assoc] at h
  obtain ⟨rfl, hrest⟩ := hf h
  obtain ⟨rfl, hr⟩ := hg hrest
  exact ⟨rfl, hr⟩

/-- Different texts that are ended by a character that they do not hold. -/
theorem of_not_mem {e : Char} (hne : ∀ a, e ∉ f a) (hinj : ∀ a b, f a = f b → a = b) :
    SelfDelimiting fun a => f a ++ [e] := by
  intro a b r r' h
  rw [List.append_assoc, List.append_assoc] at h
  obtain ⟨hab, hr⟩ := Grammar.append_cons_cancel (hne a) (hne b) h
  exact ⟨hinj a b hab, hr⟩

/-- **Any number of written forms**, if none begins like what comes after them. -/
theorem flatMap (hf : SelfDelimiting f) {e : Char} (he : NeverBegins f e) (last : Text) :
    SelfDelimiting fun as : List α => as.flatMap f ++ e :: last := by
  intro as
  induction as with
  | nil =>
      intro bs r r' h
      cases bs with
      | nil => exact ⟨rfl, by simpa using h⟩
      | cons b bs =>
          simp only [List.flatMap_cons, List.append_assoc] at h
          exact absurd h.symm (he.append_ne b _ _)
  | cons a as ih =>
      intro bs r r' h
      cases bs with
      | nil =>
          simp only [List.flatMap_cons, List.append_assoc] at h
          exact absurd h (he.append_ne a _ _)
      | cons b bs =>
          -- the first ones are the same, and the others by induction
          simp only [List.flatMap_cons, List.append_assoc] at h
          obtain ⟨rfl, hrest⟩ := hf h
          rw [← List.append_assoc, ← List.append_assoc] at hrest
          obtain ⟨rfl, hr⟩ := ih hrest
          exact ⟨rfl, hr⟩

/-- **A list of written forms**, if what closes the list begins like neither the separator nor any
of them. -/
theorem joinWith (hf : SelfDelimiting f) {s e : Char} (hs : s ≠ e) (he : NeverBegins f e)
    (sep last : Text) :
    SelfDelimiting fun as : List α => Text.joinWith (s :: sep) (as.map f) ++ e :: last := by
  -- after the first one, each has the separator in front
  have hmore : SelfDelimiting fun as : List α =>
      (as.flatMap fun a => s :: sep ++ f a) ++ e :: last :=
    (hf.prepend (s :: sep)).flatMap (fun a => ⟨s, sep ++ f a, rfl, hs⟩) last
  have hcons (a : α) (as : List α) : Text.joinWith (s :: sep) ((a :: as).map f) =
      f a ++ as.flatMap fun a => s :: sep ++ f a := by
    rw [List.map_cons, Text.joinWith_cons_eq, List.flatMap_map]
  intro as bs r r' h
  cases as with
  | nil =>
      cases bs with
      | nil => exact ⟨rfl, by simpa [Text.joinWith] using h⟩
      | cons b bs =>
          simp only [hcons, List.append_assoc] at h
          exact absurd h.symm (he.append_ne b _ _)
  | cons a as =>
      cases bs with
      | nil =>
          simp only [hcons, List.append_assoc] at h
          exact absurd h (he.append_ne a _ _)
      | cons b bs =>
          simp only [hcons, List.append_assoc] at h
          obtain ⟨rfl, hrest⟩ := hf h
          rw [← List.append_assoc, ← List.append_assoc] at hrest
          obtain ⟨rfl, hr⟩ := hmore hrest
          exact ⟨rfl, hr⟩

end SelfDelimiting

end Combine

namespace Text

/-! ## Numbers in hexadecimal -/

/-- The number that hexadecimal digits make. -/
def hexNumber (t : Text) : Nat :=
  valueOf 16 (t.filterMap hexValue?)

theorem hexValue?_digitChar : ∀ d < 16, hexValue? (Nat.digitChar d) = some d := by decide

theorem hexNumber_append_digitChar (t : Text) {d : Nat} (hd : d < 16) :
    hexNumber (t ++ [d.digitChar]) = 16 * hexNumber t + d := by
  simp [hexNumber, valueOf, hexValue?_digitChar d hd]

/-- The digits of a number make the number. -/
theorem hexNumber_toDigits (n : Nat) : hexNumber (Nat.toDigits 16 n) = n := by
  have hbase : 1 < 16 := by decide
  induction n using Nat.base_induction 16 hbase with
  | single d hd =>
      rw [Nat.toDigits_of_lt_base hd, ← List.nil_append [_], hexNumber_append_digitChar [] hd]
      exact Nat.zero_add d
  | digit n d hd hn ih =>
      rw [← Nat.toDigits_append_toDigits hbase hn hd, Nat.toDigits_of_lt_base hd,
        hexNumber_append_digitChar _ hd, ih]

/-- Zeros in front do not count. -/
theorem hexNumber_replicate_append (k : Nat) (t : Text) :
    hexNumber (List.replicate k '0' ++ t) = hexNumber t := by
  induction k with
  | zero => rfl
  | succ k ih =>
      rw [← ih]
      rfl

theorem hexNumber_ofHex (width n : Nat) : hexNumber (ofHex width n) = n :=
  (hexNumber_replicate_append _ _).trans (hexNumber_toDigits n)

theorem length_ofHex {width n : Nat} (h : (Nat.toDigits 16 n).length ≤ width) :
    (ofHex width n).length = width := by
  simp only [ofHex, List.length_append, List.length_replicate]
  omega

/-! ## Characters between quotes -/

/-- Reads back a character that is written by its number in some digits. -/
def unnumber (width : Nat) (t : Text) : Option (Char × Text) :=
  some (Char.ofNat (hexNumber (t.take width)), t.drop width)

/-- Reads back what follows a backslash. -/
def unescape : Text → Option (Char × Text)
  | [] => none
  | c :: t =>
    match c with
    | 't' => some ('\t', t)
    | 'n' => some ('\n', t)
    | 'r' => some ('\r', t)
    | 'x' => unnumber 2 t
    | 'u' => unnumber 4 t
    | 'U' => unnumber 8 t
    | c => some (c, t)

/-- Reads back what stands for a character between quotes: the character, and what comes after. -/
def unquoteChar : Text → Option (Char × Text)
  | [] => none
  | c :: t => if c = '\\' then unescape t else some (c, t)

theorem unnumber_ofHex {width : Nat} {c : Char}
    (h : (Nat.toDigits 16 c.toNat).length ≤ width) (rest : Text) :
    unnumber width (ofHex width c.toNat ++ rest) = some (c, rest) := by
  rw [unnumber, List.take_left' (length_ofHex h), List.drop_left' (length_ofHex h),
    hexNumber_ofHex, Char.ofNat_toNat]

/-- A character that is written by its number. -/
theorem unquoteChar_numbered (c : Char) (rest : Text) :
    unquoteChar (numbered c ++ rest) = some (c, rest) := by
  have hmax : c.toNat < 4294967296 := c.val.toNat_lt
  simp only [numbered]
  split
  · have hlength : (Nat.toDigits 16 c.toNat).length ≤ 2 :=
      (Nat.length_toDigits_le_iff (by decide) (by decide)).mpr (by omega)
    exact unnumber_ofHex hlength rest
  · split
    · have hlength : (Nat.toDigits 16 c.toNat).length ≤ 4 :=
        (Nat.length_toDigits_le_iff (by decide) (by decide)).mpr (by omega)
      exact unnumber_ofHex hlength rest
    · have hlength : (Nat.toDigits 16 c.toNat).length ≤ 8 :=
        (Nat.length_toDigits_le_iff (by decide) (by decide)).mpr (by omega)
      exact unnumber_ofHex hlength rest

/-- What stands for a character between quotes is an escape, the character or its number. -/
theorem quotedChar_cases (q c : Char) :
    (quotedChar q c = ['\\', c] ∧ (c = q ∨ c = '\\')) ∨
    (quotedChar q c = ['\\', 't'] ∧ c = '\t') ∨
    (quotedChar q c = ['\\', 'n'] ∧ c = '\n') ∨
    (quotedChar q c = ['\\', 'r'] ∧ c = '\r') ∨
    (quotedChar q c = [c] ∧ c ≠ q ∧ c ≠ '\\') ∨
    quotedChar q c = numbered c := by
  unfold quotedChar
  split
  · next h => exact .inl ⟨rfl, by simpa using h⟩
  · next h =>
    split
    · next htab => exact .inr (.inl ⟨rfl, by simpa using htab⟩)
    · split
      · next hfeed => exact .inr (.inr (.inl ⟨rfl, by simpa using hfeed⟩))
      · split
        · next hreturn => exact .inr (.inr (.inr (.inl ⟨rfl, by simpa using hreturn⟩)))
        · split
          · exact .inr (.inr (.inr (.inr (.inl ⟨rfl, by simpa using h⟩))))
          · exact .inr (.inr (.inr (.inr (.inr rfl))))

/-- **What stands for a character between quotes** can be read back, whatever follows. -/
theorem unquoteChar_quotedChar {q : Char} (hq : isQuote q = true) (c : Char) (rest : Text) :
    unquoteChar (quotedChar q c ++ rest) = some (c, rest) := by
  rcases quotedChar_cases q c with
    ⟨h, hc⟩ | ⟨h, rfl⟩ | ⟨h, rfl⟩ | ⟨h, rfl⟩ | ⟨h, -, hne⟩ | h
  · -- the two quotes and the backslash stand for themselves after a backslash
    have hchar : (c = '"' ∨ c = '\'') ∨ c = '\\' := by
      refine hc.imp_left fun heq => ?_
      rw [← heq] at hq
      simpa [isQuote] using hq
    rw [h]
    rcases hchar with (rfl | rfl) | rfl <;> rfl
  · rw [h]
    rfl
  · rw [h]
    rfl
  · rw [h]
    rfl
  · rw [h]
    exact if_neg hne
  · rw [h]
    exact unquoteChar_numbered c rest

theorem selfDelimiting_quotedChar {q : Char} (hq : isQuote q = true) :
    SelfDelimiting (quotedChar q) := by
  intro c d r r' h
  have hread := unquoteChar_quotedChar hq c r
  rw [h, unquoteChar_quotedChar hq d r'] at hread
  simpa [eq_comm] using hread

/-- The quote does not end the text too early. -/
theorem neverBegins_quotedChar {q : Char} (hq : isQuote q = true) :
    NeverBegins (quotedChar q) q := by
  have hbackslash : '\\' ≠ q := by
    rintro rfl
    cases hq
  intro c
  rcases quotedChar_cases q c with
    ⟨h, -⟩ | ⟨h, -⟩ | ⟨h, -⟩ | ⟨h, -⟩ | ⟨h, hne, -⟩ | h
  · exact ⟨_, _, h, hbackslash⟩
  · exact ⟨_, _, h, hbackslash⟩
  · exact ⟨_, _, h, hbackslash⟩
  · exact ⟨_, _, h, hbackslash⟩
  · exact ⟨_, _, h, hne⟩
  · refine ⟨'\\', (numbered c).tail, ?_, hbackslash⟩
    rw [h]
    simp only [numbered]
    split
    · rfl
    · split <;> rfl

/-! ## Texts -/

theorem isQuote_quoteFor (t : Text) : isQuote t.quoteFor = true := by
  unfold quoteFor
  split <;> decide

/-- **Quoted texts end by themselves.** -/
theorem selfDelimiting_quoted : SelfDelimiting quoted := by
  intro t u r r' h
  simp only [quoted, List.cons_append, List.nil_append, List.cons.injEq] at h
  obtain ⟨hquote, hrest⟩ := h
  have hq := isQuote_quoteFor t
  rw [← hquote] at hrest
  exact (selfDelimiting_quotedChar hq).flatMap (neverBegins_quotedChar hq) [] hrest

/-- A quoted text begins with a quote. -/
theorem neverBegins_quoted {c : Char} (hc : isQuote c = false) : NeverBegins quoted c := by
  intro t
  refine ⟨t.quoteFor, _, rfl, fun heq => ?_⟩
  have hquote := isQuote_quoteFor t
  rw [heq, hc] at hquote
  cases hquote

/-- **Lists of quoted texts end by themselves.** -/
theorem selfDelimiting_quotedList : SelfDelimiting quotedList := by
  have hlist := selfDelimiting_quoted.joinWith (s := ',') (e := ']') (by decide)
    (neverBegins_quoted (by decide)) [' '] []
  exact fun ts us r r' h => hlist.prepend ['['] (by simpa [quotedList] using h)

/-- The text holds what would stand between two texts. -/
example : quotedList ["a', 'b"] = "[\"a', 'b\"]" := by decide +kernel

end Text

end TextShell
