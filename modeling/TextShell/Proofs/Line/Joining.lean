import TextShell.Proofs.Line.Scanning

/-!
# Lines that are joined at a separator

Outside of quotes a bar or a blank keeps what stands before it apart from what stands after it.  So
the stages of a line are known from those of its two parts: at a bar the stages of the second part
follow those of the first, and at a blank the last stage of the first part goes on with the first
stage of the second.

The second part is not read from the beginning of a line but from a state in which some stages and
some words are there already.  `Scan.Continues` compares the two: it is the invariant of reading the
same text from both (`Scan.Continues.step`, `Scan.Continues.foldl`), and all that is asked about the
joined line is read off it.

## Main Definitions

* `Scan.Continues` — a state and the same one after some stages and words
-/

namespace TextShell

namespace Scan

/-- **A state and the same one after some stages and words**, each list with its latest member
first.  The words stand in front of those of the first stage. -/
inductive Continues (finished : List (List Text)) (words : List Text) : Scan → Scan → Prop
  /-- The first stage is in progress. -/
  | first (own : List Text) (word : Option Text) (quote : Option Char) :
      Continues finished words ⟨[], own, word, quote⟩ ⟨finished, own ++ words, word, quote⟩
  /-- The first stage is finished. -/
  | later (between : List (List Text)) (stage own : List Text) (word : Option Text)
      (quote : Option Char) :
      Continues finished words ⟨between ++ [stage], own, word, quote⟩
        ⟨between ++ (words.reverse ++ stage) :: finished, own, word, quote⟩

/-! ## Stages of a state -/

/-- Outside of quotes nothing but the words of the stage is left of a state once its word ends. -/
theorem endWord_eq_between {s : Scan} (hs : s.quote = none) :
    s.endWord = between s.finished s.endWord.words := by
  obtain ⟨finished, words, word, quote⟩ := s
  obtain rfl : quote = none := hs
  cases word <;> rfl

theorem endStage_eq_between {s : Scan} (hs : s.quote = none) :
    s.endStage = between s.groups.reverse [] := by
  rw [groups, List.reverse_reverse, ← endStage_endWord, endWord_eq_between hs, endStage_between]
  rfl

/-! ## Reading on -/

namespace Continues

variable {finished : List (List Text)} {words : List Text} {s t : Scan}

theorem word_eq (h : Continues finished words s t) : t.word = s.word := by
  cases h <;> rfl

theorem quote_eq (h : Continues finished words s t) : t.quote = s.quote := by
  cases h <;> rfl

/-- What is in progress may be replaced on both sides. -/
theorem resume (h : Continues finished words s t) (word : Option Text) (quote : Option Char) :
    Continues finished words { s with word := word, quote := quote }
      { t with word := word, quote := quote } := by
  cases h with
  | first own => exact .first own word quote
  | later between stage own => exact .later between stage own word quote

theorem push (h : Continues finished words s t) (c : Char) :
    Continues finished words (s.push c) (t.push c) := by
  rw [Scan.push, Scan.push, h.word_eq, h.quote_eq]
  exact h.resume _ _

theorem endWord (h : Continues finished words s t) :
    Continues finished words s.endWord t.endWord := by
  cases h with
  | first own word quote =>
      cases word with
      | none => exact .first own none quote
      | some w => exact .first (w.reverse :: own) none quote
  | later between stage own word quote =>
      cases word with
      | none => exact .later between stage own none quote
      | some w => exact .later between stage (w.reverse :: own) none quote

theorem endStage (h : Continues finished words s t) :
    Continues finished words s.endStage t.endStage := by
  rw [Scan.endStage, Scan.endStage]
  have hword := h.endWord
  generalize s.endWord = u at hword ⊢
  generalize t.endWord = v at hword ⊢
  cases hword with
  | first own word quote =>
      -- the stage that ends is the one that the words stand in front of
      rw [List.reverse_append]
      exact .later [] own.reverse [] word quote
  | later between stage own word quote =>
      exact .later (own.reverse :: between) stage [] word quote

/-- **Reading a character** from both states. -/
theorem step (h : Continues finished words s t) (c : Char) :
    Continues finished words (s.step c) (t.step c) := by
  rw [Scan.step, Scan.step, h.quote_eq]
  split
  · split
    · have hopen := h.resume s.word none
      rwa [← h.word_eq] at hopen ⊢
    · exact h.push c
  · split
    · rw [Scan.openQuote, Scan.openQuote, h.word_eq]
      exact h.resume _ _
    · split
      · exact h.endStage
      · split
        · exact h.endWord
        · exact h.push c

/-- **Reading a text** from both states. -/
theorem foldl (h : Continues finished words s t) (text : Text) :
    Continues finished words (text.foldl Scan.step s) (text.foldl Scan.step t) := by
  induction text generalizing s t with
  | nil => exact h
  | cons c cs ih => exact ih (h.step c)

/-- The stages that come of it: those in front, then those of the first state, the first of which
begins with the words. -/
theorem groups (h : Continues finished words s t) :
    ∃ first after, s.groups = first :: after ∧
      t.groups = finished.reverse ++ (words.reverse ++ first) :: after := by
  have hword := h.endWord
  rw [groups_eq, groups_eq, ← endWord_finished, ← t.endWord_finished]
  generalize s.endWord = u at hword ⊢
  generalize t.endWord = v at hword ⊢
  cases hword with
  | first own => exact ⟨own.reverse, [], by simp, by simp⟩
  | later between stage own =>
      exact ⟨stage, between.reverse ++ [own.reverse], by simp, by simp⟩

/-- Without words in front the stage in progress is the same. -/
theorem endWord_words (h : Continues finished [] s t) : t.endWord.words = s.endWord.words := by
  have hword := h.endWord
  generalize s.endWord = u at hword ⊢
  generalize t.endWord = v at hword ⊢
  cases hword with
  | first own => exact List.append_nil own
  | later => rfl

end Continues

/-- Reading a text between two words of a line goes on from what is there. -/
theorem continues_between (finished : List (List Text)) (words : List Text) (text : Text) :
    Continues finished words (scan text) (text.foldl step (between finished words)) :=
  (Continues.first [] none none).foldl text

end Scan

/-! ## Lines -/

variable {a b text : Text} {c : Char}

theorem quote_scan_eq_none_iff : (scan a).quote = none ↔ (lastStage a).inQuote = false := by
  simp [lastStage]

/-- What follows a bar is read as a line of its own. -/
theorem continues_scan_bar (h : (scan a).quote = none) (b : Text) :
    Scan.Continues (scan a).groups.reverse [] (scan b) (scan (a ++ '|' :: b)) := by
  rw [scan_append, List.foldl_cons, Scan.step_bar h, Scan.endStage_eq_between h]
  exact Scan.continues_between _ _ b

/-- What follows a blank is read as a line of its own, after the words of the stage. -/
theorem continues_scan_blank (h : (scan a).quote = none) (hc : isBlank c = true) (b : Text) :
    Scan.Continues (scan a).finished (scan a).endWord.words (scan b) (scan (a ++ c :: b)) := by
  rw [scan_append, List.foldl_cons, Scan.step_of_isBlank h hc, Scan.endWord_eq_between h]
  exact Scan.continues_between _ _ b

/-- At a bar the stages of the second part follow those of the first. -/
theorem groups_scan_bar (h : (scan a).quote = none) (b : Text) :
    (scan (a ++ '|' :: b)).groups = (scan a).groups ++ (scan b).groups := by
  obtain ⟨first, after, hb, hjoined⟩ := (continues_scan_bar h b).groups
  rw [hjoined, hb, List.reverse_reverse]
  rfl

theorem lastStage_bar (h : (scan a).quote = none) (b : Text) :
    lastStage (a ++ '|' :: b) = lastStage b := by
  have hcontinues := continues_scan_bar h b
  simp only [lastStage, hcontinues.endWord_words, hcontinues.word_eq, hcontinues.quote_eq]

/-- At a blank the last stage of the first part goes on with the first stage of the second. -/
theorem groups_scan_blank (h : (scan a).quote = none) (hc : isBlank c = true) (b : Text) :
    ∃ before last first after, (scan a).groups = before ++ [last] ∧
      (scan b).groups = first :: after ∧
      (scan (a ++ c :: b)).groups = before ++ (last ++ first) :: after := by
  obtain ⟨first, after, hb, hjoined⟩ := (continues_scan_blank h hc b).groups
  exact ⟨_, _, first, after, (scan a).groups_eq, hb, hjoined⟩

/-- A stage that has a word is kept. -/
theorem getLast?_stages_of_words_ne_nil (h : (lastStage text).words ≠ []) :
    (stages text).getLast? = some (lastStage text).words := by
  have hkept : [(lastStage text).words].filter (fun words => !words.isEmpty) =
      [(lastStage text).words] := by
    simpa using h
  have hstages : stages text = (scan text).finished.reverse.filter (fun words => !words.isEmpty) ++
      [(lastStage text).words] := by
    rw [stages, Scan.groups_eq, List.filter_append]
    exact congrArg _ hkept
  rw [hstages, List.getLast?_concat]

/-- **Lines that are joined at a separator.**  If no quote is open where the first part ends, a bar
puts the stages of the second part after those of the first, and the joined line ends in the stage
in which the second part ends.  A blank makes the last stage of the first part go on with the first
stage of the second, and the joined line ends in a word or a quote if the second part does.

Every line that ends in a quote ends in a word, one that ends in a word has a word in its last
stage, and a last stage with a word is the last of the stages that are kept. -/
theorem scan_joined_at_separator :
    (∀ a b : Text, (lastStage a).inQuote = false →
      ((scan (a ++ '|' :: b)).groups = (scan a).groups ++ (scan b).groups ∧
        stages (a ++ '|' :: b) = stages a ++ stages b ∧
        lastStage (a ++ '|' :: b) = lastStage b) ∧
      ∀ c, isBlank c = true →
        (∃ before last first after, (scan a).groups = before ++ [last] ∧
          (scan b).groups = first :: after ∧
          (scan (a ++ c :: b)).groups = before ++ (last ++ first) :: after) ∧
        (lastStage (a ++ c :: b)).inWord = (lastStage b).inWord ∧
        (lastStage (a ++ c :: b)).inQuote = (lastStage b).inQuote) ∧
    ∀ text : Text,
      ((lastStage text).inQuote = true → (lastStage text).inWord = true) ∧
      ((lastStage text).inWord = true → (lastStage text).words ≠ []) ∧
      ((lastStage text).words ≠ [] → (stages text).getLast? = some (lastStage text).words) := by
  refine ⟨fun a b ha => ?_, fun text => ⟨fun hquote => ?_, fun hword => ?_,
    getLast?_stages_of_words_ne_nil⟩⟩
  · have hnone := quote_scan_eq_none_iff.mpr ha
    refine ⟨⟨groups_scan_bar hnone b, ?_, lastStage_bar hnone b⟩,
      fun c hc => ⟨groups_scan_blank hnone hc b, ?_, ?_⟩⟩
    · rw [stages, groups_scan_bar hnone b, List.filter_append]
      rfl
    · exact congrArg Option.isSome (continues_scan_blank hnone hc b).word_eq
    · exact congrArg Option.isSome (continues_scan_blank hnone hc b).quote_eq
  · -- a quote is open inside of a word only
    obtain ⟨q, hq⟩ := Option.isSome_iff_exists.mp hquote
    exact (Scan.wellQuoted_scan text q hq).2
  · obtain ⟨w, hw⟩ := Option.isSome_iff_exists.mp hword
    simp [lastStage, Scan.endWord, hw]

/-- A part with a quoted bar, and one that ends in a quote, joined at a bar and at a blank. -/
theorem scan_joined_at_separator_quoted_bar :
    let a : Text := ['x', '\'', '|', '\'']
    let b : Text := ['y', '|', '"', 'z']
    ((lastStage a).inQuote = false ∧ isBlank '\u2003' = true) ∧
      stages (a ++ '|' :: b) = [[['x', '|']], [['y']], [['z']]] ∧
      lastStage (a ++ '|' :: b) = ⟨[['z']], true, true⟩ ∧
      (lastStage (a ++ '\u2003' :: b)).inQuote = true := by
  intro a b
  have ha : (lastStage a).inQuote = false := by decide
  have hblank : isBlank '\u2003' = true := by decide
  obtain ⟨⟨-, hstages, hlast⟩, hjoined⟩ := scan_joined_at_separator.1 a b ha
  obtain ⟨-, -, hquote⟩ := hjoined '\u2003' hblank
  exact ⟨⟨ha, hblank⟩, hstages.trans (by decide), hlast.trans (by decide),
    hquote.trans (by decide)⟩

end TextShell
