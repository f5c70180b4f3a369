import TextShell.Line.Scan

/-!
# The moves of the scanner

`scan` folds `Scan.step` over a line.  Everything that is proved about it goes through a few larger
moves: a run of text that joins the word in progress (`foldl_step_of_admits`), a quoted span, an
unquoted blank (`endWord`) and an unquoted bar (`endStage`).  Which texts a state takes into the
word as they are depends on its quote alone, and `Scan.Admits` says which: between quotes all but
the closing quote, outside of them only plain characters.

A quote is open only inside a word (`Scan.WellQuoted`).  Without this invariant an empty text
between quotes would not be known to leave the word in progress as it is.
-/

namespace TextShell

/-- A character that stands for itself outside quotes: it neither separates nor opens a quote. -/
def isPlain (c : Char) : Bool :=
  !isBlank c && c != '|' && !isQuote c

/-- No quote separates words. -/
theorem isBlank_eq_false_of_isQuote {c : Char} (h : isQuote c = true) : isBlank c = false := by
  simp only [isQuote, Bool.or_eq_true, beq_iff_eq] at h
  rcases h with rfl | rfl
  · decide
  · decide

/-- No blank opens a quote. -/
theorem isQuote_eq_false_of_isBlank {c : Char} (h : isBlank c = true) : isQuote c = false := by
  cases hq : isQuote c with
  | false => rfl
  | true => exact absurd h (by simp [isBlank_eq_false_of_isQuote hq])

/-- A blank is no bar. -/
theorem ne_bar_of_isBlank {c : Char} (h : isBlank c = true) : c ≠ '|' := by
  rintro rfl
  exact absurd h (by decide)

theorem isPlain_iff {c : Char} :
    isPlain c = true ↔ isBlank c = false ∧ c ≠ '|' ∧ isQuote c = false := by
  simp [isPlain, and_assoc]

/-- The four classes into which a line falls outside quotes. -/
theorem isPlain_or_isQuote_or_isBlank_or_eq_bar (c : Char) :
    isPlain c = true ∨ isQuote c = true ∨ isBlank c = true ∨ c = '|' := by
  by_cases hq : isQuote c = true
  · exact Or.inr (Or.inl hq)
  · by_cases hb : isBlank c = true
    · exact Or.inr (Or.inr (Or.inl hb))
    · by_cases hbar : c = '|'
      · exact Or.inr (Or.inr (Or.inr hbar))
      · exact Or.inl (isPlain_iff.mpr ⟨by simpa using hb, hbar, by simpa using hq⟩)

/-- The scanner goes on from where it is. -/
theorem scan_append (a b : Text) : scan (a ++ b) = b.foldl Scan.step (scan a) := by
  rw [scan, List.foldl_append, scan]

namespace Scan

/-- Adds a text to the word in progress, or begins a word with it.  The empty text begins a word as
well. -/
def append (s : Scan) (t : Text) : Scan :=
  { s with word := some (t.reverse ++ s.word.getD []) }

@[simp] theorem append_quote (s : Scan) (t : Text) : (s.append t).quote = s.quote := rfl

theorem append_append (s : Scan) (t u : Text) : (s.append t).append u = s.append (t ++ u) := by
  simp [append]

theorem push_eq_append (s : Scan) (c : Char) : s.push c = s.append [c] := rfl

@[simp] theorem endWord_quote (s : Scan) : s.endWord.quote = s.quote := by
  unfold endWord
  split <;> rfl

@[simp] theorem endWord_word (s : Scan) : s.endWord.word = none := by
  unfold endWord
  split
  · assumption
  · rfl

@[simp] theorem endWord_finished (s : Scan) : s.endWord.finished = s.finished := by
  unfold endWord
  split <;> rfl

theorem endWord_of_word_eq_none {s : Scan} (h : s.word = none) : s.endWord = s := by
  unfold endWord
  rw [h]

/-- Ending a word twice is ending it once. -/
@[simp] theorem endWord_endWord (s : Scan) : s.endWord.endWord = s.endWord :=
  endWord_of_word_eq_none s.endWord_word

/-- A blank before the end of a stage changes nothing. -/
@[simp] theorem endStage_endWord (s : Scan) : s.endWord.endStage = s.endStage := by
  unfold endStage
  rw [endWord_endWord]

@[simp] theorem endStage_quote (s : Scan) : s.endStage.quote = s.quote :=
  s.endWord_quote

/-- The stages that a state amounts to are those that are finished and the one in progress. -/
theorem groups_eq (s : Scan) : s.groups = s.finished.reverse ++ [s.endWord.words.reverse] := by
  rw [groups, endStage, List.reverse_cons, endWord_finished]

/-- The stages that a state amounts to do not depend on whether a quote is open. -/
theorem groups_with_quote (s : Scan) (q : Option Char) :
    { s with quote := q }.groups = s.groups := by
  unfold groups endStage endWord
  cases s.word with
  | none => rfl
  | some w => rfl

/-! ## One character -/

section Step

variable {s : Scan} {c q : Char}

theorem step_of_isPlain (hs : s.quote = none) (hc : isPlain c = true) :
    s.step c = s.append [c] := by
  obtain ⟨hb, hbar, hq⟩ := isPlain_iff.mp hc
  simp [step, hs, hb, hbar, hq, push_eq_append]

theorem step_of_isBlank (hs : s.quote = none) (hc : isBlank c = true) : s.step c = s.endWord := by
  simp [step, hs, isQuote_eq_false_of_isBlank hc, ne_bar_of_isBlank hc, hc]

theorem step_bar (hs : s.quote = none) : s.step '|' = s.endStage := by
  have hq : isQuote '|' = false := by decide
  simp [step, hs, hq]

theorem step_of_isQuote (hs : s.quote = none) (hc : isQuote c = true) :
    s.step c = s.openQuote c := by
  simp [step, hs, hc]

theorem step_closing (hs : s.quote = some q) : s.step q = { s with quote := none } := by
  simp [step, hs]

theorem step_held (hs : s.quote = some q) (hc : c ≠ q) : s.step c = s.append [c] := by
  simp [step, hs, hc, push_eq_append]

end Step

/-! ## A run of text -/

/-- The texts that the scanner takes into the word in progress as they are: between quotes all that
do not hold the closing quote, outside of quotes those of one or more plain characters. -/
def Admits (s : Scan) (t : Text) : Prop :=
  match s.quote with
  | some q => q ∉ t
  | none => t ≠ [] ∧ ∀ c ∈ t, isPlain c = true

/-- What is open is a quote, and it is open inside a word. -/
def WellQuoted (s : Scan) : Prop :=
  ∀ q ∈ s.quote, isQuote q = true ∧ s.word.isSome = true

theorem admits_of_quote_eq_some {s : Scan} {q : Char} {t : Text} (hs : s.quote = some q) :
    s.Admits t ↔ q ∉ t := by
  simp [Admits, hs]

theorem admits_of_quote_eq_none {s : Scan} {t : Text} (hs : s.quote = none) :
    s.Admits t ↔ t ≠ [] ∧ ∀ c ∈ t, isPlain c = true := by
  simp [Admits, hs]

instance (s : Scan) (t : Text) : Decidable (s.Admits t) :=
  match h : s.quote with
  | some _ => decidable_of_iff _ (admits_of_quote_eq_some h).symm
  | none =>
      -- decided along the text, not over all characters
      have : Decidable (∀ c ∈ t, isPlain c = true) := List.decidableBAll _ t
      decidable_of_iff (t ≠ [] ∧ ∀ c ∈ t, isPlain c = true) (admits_of_quote_eq_none h).symm

/-- Adding nothing to a word in progress changes nothing. -/
theorem append_nil_of_isSome {s : Scan} (h : s.word.isSome = true) : s.append [] = s := by
  obtain ⟨w, hw⟩ := Option.isSome_iff_exists.mp h
  obtain ⟨finished, words, word, quote⟩ := s
  simp only at hw
  simp [append, hw]

/-- A text that a state takes in, character by character. -/
theorem foldl_step_eq_append {s : Scan} {t : Text} (ht : t ≠ [])
    (h : ∀ s' : Scan, s'.quote = s.quote → ∀ c ∈ t, s'.step c = s'.append [c]) :
    t.foldl step s = s.append t := by
  induction t generalizing s with
  | nil => exact absurd rfl ht
  | cons c cs ih =>
      rw [List.foldl_cons, h s rfl c List.mem_cons_self]
      cases cs with
      | nil => rfl
      | cons d ds =>
          have htail := ih (s := s.append [c]) (by simp) fun s' hs' e he =>
            h s' hs' e (List.mem_cons_of_mem _ he)
          rw [htail, append_append]
          rfl

/-- **A text that is admitted joins the word in progress.** -/
theorem foldl_step_of_admits {s : Scan} {t : Text} (hs : s.WellQuoted) (h : s.Admits t) :
    t.foldl step s = s.append t := by
  cases hq : s.quote with
  | none =>
      obtain ⟨hne, hplain⟩ := (admits_of_quote_eq_none hq).mp h
      exact foldl_step_eq_append hne fun s' hs' c hc =>
        step_of_isPlain (hs'.trans hq) (hplain c hc)
  | some q =>
      have hnot : q ∉ t := (admits_of_quote_eq_some hq).mp h
      have hword : s.word.isSome = true := (hs q hq).2
      by_cases ht : t = []
      · rw [ht, append_nil_of_isSome hword]
        rfl
      · exact foldl_step_eq_append ht fun s' hs' c hc =>
          step_held (hs'.trans hq) fun e => hnot (e ▸ hc)

theorem wellQuoted_openQuote (s : Scan) {q : Char} (hq : isQuote q = true) :
    (s.openQuote q).WellQuoted := by
  intro q' hq'
  obtain rfl : q = q' := Option.some.inj hq'
  exact ⟨hq, rfl⟩

/-- A quote and the text that it holds join the word in progress, and the quote stays open. -/
theorem foldl_step_open {s : Scan} {q : Char} {held : Text} (hs : s.quote = none)
    (hq : isQuote q = true) (hheld : q ∉ held) :
    (q :: held).foldl step s = { s.append held with quote := some q } := by
  rw [List.foldl_cons, step_of_isQuote hs hq,
    foldl_step_of_admits (wellQuoted_openQuote s hq) ((admits_of_quote_eq_some rfl).mpr hheld)]
  rfl

/-- A quoted span joins the word in progress without its quotes. -/
theorem foldl_step_span {s : Scan} {q : Char} {held : Text} (hs : s.quote = none)
    (hq : isQuote q = true) (hheld : q ∉ held) :
    (q :: (held ++ [q])).foldl step s = s.append held := by
  rw [← List.cons_append, List.foldl_append, foldl_step_open hs hq hheld, List.foldl_cons,
    List.foldl_nil, step_closing rfl]
  obtain ⟨finished, words, word, quote⟩ := s
  simp only at hs
  rw [hs]
  rfl

/-! ## The invariant of a scan -/

theorem wellQuoted_of_quote_eq_none {s : Scan} (hs : s.quote = none) : s.WellQuoted := by
  intro q hq
  rw [hs] at hq
  cases hq

/-- Reading a character keeps open quotes inside words. -/
theorem WellQuoted.step {s : Scan} (h : s.WellQuoted) (c : Char) : (s.step c).WellQuoted := by
  cases hq : s.quote with
  | some q =>
      by_cases hc : c = q
      · subst hc
        rw [step_closing hq]
        exact wellQuoted_of_quote_eq_none rfl
      · rw [step_held hq hc]
        exact fun q' hq' => ⟨(h q' hq').1, rfl⟩
  | none =>
      rcases isPlain_or_isQuote_or_isBlank_or_eq_bar c with hc | hc | hc | rfl
      · rw [step_of_isPlain hq hc]
        exact wellQuoted_of_quote_eq_none hq
      · rw [step_of_isQuote hq hc]
        exact wellQuoted_openQuote s hc
      · rw [step_of_isBlank hq hc]
        exact wellQuoted_of_quote_eq_none (s.endWord_quote.trans hq)
      · rw [step_bar hq]
        exact wellQuoted_of_quote_eq_none (s.endStage_quote.trans hq)

/-- Reading a text keeps open quotes inside words. -/
theorem WellQuoted.foldl {s : Scan} (h : s.WellQuoted) (t : Text) :
    (t.foldl Scan.step s).WellQuoted := by
  induction t generalizing s with
  | nil => exact h
  | cons c cs ih => exact ih (h.step c)

theorem wellQuoted_scan (line : Text) : (scan line).WellQuoted :=
  (wellQuoted_of_quote_eq_none rfl).foldl line

/-! ## Between words -/

/-- The state between two words, after some stages and some words of the next one, each list with
its latest member first. -/
def between (finished : List (List Text)) (words : List Text) : Scan :=
  { finished := finished, words := words }

theorem endWord_append_between (finished : List (List Text)) (words : List Text) (t : Text) :
    ((between finished words).append t).endWord = between finished (t :: words) := by
  simp [between, append, endWord]

theorem endStage_between (finished : List (List Text)) (words : List Text) :
    (between finished words).endStage = between (words.reverse :: finished) [] := rfl

theorem groups_of_endWord_eq_between {s : Scan} {finished : List (List Text)} {words : List Text}
    (h : s.endWord = between finished words) :
    s.groups = finished.reverse ++ [words.reverse] := by
  rw [groups, ← endStage_endWord, h, endStage_between]
  exact List.reverse_cons

end Scan

end TextShell
