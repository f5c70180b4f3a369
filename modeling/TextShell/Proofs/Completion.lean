import Mathlib.Data.List.Induction
import TextShell.Completion
import TextShell.Proofs.Line.SafeValues
import TextShell.Text.Letter

/-!
# What completion offers

`completions` looks at the value of the word at the cursor, from which the quotes are gone, and
replaces as many characters of the raw text.  That these are the characters of the word itself is
what `completedWord?` asks for with its suffix test, and the scan of the text bears it out: letters
that end a text outside of quotes were read outside of quotes (`quote_eq_none_of_foldl_step`), so
taking them away leaves the scanner in front of a word without a value (`AtCommand`).  Whatever name
is written there becomes the only word of the stage.

Conversely, in a stage without quotes the value of the open word ends the raw text
(`suffix_of_word_eq_some`), so the suffix test never stands in the way.

## Main Definitions

* `AtCommand` — a state in which the next word is the command of its stage
* `EndsUnquoted` — texts whose last stage holds no quote
-/

namespace TextShell

/-- A letter stands for itself. -/
theorem isPlain_of_isLetter {c : Char} (h : isLetter c = true) : isPlain c = true := by
  have hblanks : ∀ r ∈ blankTable.ranges, ∀ n ∈ List.range' r.1 (r.2 + 1 - r.1),
      letterTable.contains n = false := by
    decide +kernel
  have hblank : isBlank c = false := by
    cases hb : isBlank c with
    | false => rfl
    | true =>
        obtain ⟨r, hr, hlo, hhi⟩ := CodeTable.exists_range_of_containsIn hb
        have hmem : c.toNat ∈ List.range' r.1 (r.2 + 1 - r.1) :=
          List.mem_range'_1.mpr ⟨hlo, by omega⟩
        have hno := hblanks r hr c.toNat hmem
        rw [isLetter] at h
        rw [h] at hno
        cases hno
  refine isPlain_iff.mpr ⟨hblank, ?_, ?_⟩
  · rintro rfl
    exact absurd h (by decide +kernel)
  · cases hq : isQuote c with
    | false => rfl
    | true =>
        simp only [isQuote, Bool.or_eq_true, beq_iff_eq] at hq
        rcases hq with rfl | rfl
        · exact absurd h (by decide +kernel)
        · exact absurd h (by decide +kernel)

/-- The names that are offered are made of letters. -/
theorem isLetter_of_mem_completionNames {name : Text} (h : name ∈ completionNames) :
    name ≠ [] ∧ ∀ c ∈ name, isLetter c = true := by
  have hall : ∀ name ∈ completionNames, name ≠ [] ∧ name.all isLetter = true := by
    decide +kernel
  exact ⟨(hall name h).1, List.all_eq_true.mp (hall name h).2⟩

namespace Scan

/-- In front of the command of a stage: outside of quotes, after no word, and in no word that has a
character. -/
structure AtCommand (s : Scan) : Prop where
  quote : s.quote = none
  words : s.words = []
  word : s.word.getD [] = []

/-- A scan in which the command of the stage in progress is being written and nothing else was. -/
def command (finished : List (List Text)) (name : Text) : Scan :=
  { finished := finished, word := some name.reverse }

variable {s : Scan} {t : Text}

/-- Plain characters neither open nor close a quote. -/
theorem quote_foldl_step_of_plain (hs : s.WellQuoted) (ht : ∀ c ∈ t, isPlain c = true) :
    (t.foldl step s).quote = s.quote := by
  induction t generalizing s with
  | nil => rfl
  | cons c cs ih =>
      have hc : isPlain c = true := ht c List.mem_cons_self
      have hstep : (s.step c).quote = s.quote := by
        cases hq : s.quote with
        | none =>
            rw [step_of_isPlain hq hc]
            exact hq
        | some q =>
            -- an open quote is closed by a quote character only
            have hne : c ≠ q := by
              rintro rfl
              have hquote := (hs c hq).1
              rw [(isPlain_iff.mp hc).2.2] at hquote
              cases hquote
            rw [step_held hq hne]
            exact hq
      rw [List.foldl_cons, ih (hs.step c) fun d hd => ht d (List.mem_cons_of_mem _ hd), hstep]

/-- Plain characters that are read outside of quotes join the word in progress. -/
theorem foldl_step_of_plain (hs : s.quote = none) (hne : t ≠ []) (ht : ∀ c ∈ t, isPlain c = true) :
    t.foldl step s = s.append t :=
  foldl_step_of_admits (wellQuoted_of_quote_eq_none hs)
    ((admits_of_quote_eq_none hs).mpr ⟨hne, ht⟩)

/-- A name that is written where the command stands is the whole stage. -/
theorem AtCommand.append (h : s.AtCommand) (name : Text) :
    s.append name = command s.finished name := by
  obtain ⟨finished, words, word, quote⟩ := s
  obtain ⟨hquote, hwords, hword⟩ := h
  simp only at hquote hwords hword
  subst hquote hwords
  simp [Scan.append, command, hword]

/-- The stages before the last one are those that are finished. -/
theorem dropLast_groups (s : Scan) : s.groups.dropLast = s.finished.reverse := by
  rw [groups_eq, List.dropLast_concat]

end Scan

variable {text word name : Text}

theorem lastStage_of_scan_eq_command {finished : List (List Text)}
    (h : scan text = Scan.command finished name) : lastStage text = ⟨[name], true, false⟩ := by
  simp [lastStage, h, Scan.command, Scan.endWord]

/-- **Which word is completed**: outside of quotes the first word of a stage, if no word was begun
or if what it amounts to stands at the end of the raw text. -/
theorem completedWord?_eq_some_iff :
    completedWord? text = some word ↔
      (scan text).quote = none ∧ (scan text).words = [] ∧
        ((scan text).word = none ∧ word = [] ∨
          (scan text).word = some word.reverse ∧ word <:+ text) := by
  unfold completedWord? lastStage
  rcases scan text with ⟨finished, words, _ | w, _ | q⟩
  · -- between words: there must not have been one
    cases words with
    | nil => simp [Scan.endWord, eq_comm]
    | cons w' ws =>
        cases hwords : (w' :: ws).reverse with
        | nil => simp at hwords
        | cons v vs => cases vs <;> simp [Scan.endWord, hwords]
  · simp
  · -- in a word: it must be the first one
    cases words with
    | nil =>
        simp only [Scan.endWord, List.reverse_singleton, Option.isSome_none, Option.isSome_some,
          Bool.false_eq_true, if_false, Bool.true_and, List.isSuffixOf_iff_suffix]
        constructor
        · intro h
          split at h
          · rename_i hsuffix
            obtain rfl : w.reverse = word := Option.some.inj h
            exact ⟨trivial, trivial, Or.inr ⟨by rw [List.reverse_reverse], hsuffix⟩⟩
          · cases h
        · rintro ⟨-, -, ⟨hnone, -⟩ | ⟨hsome, hsuffix⟩⟩
          · cases hnone
          · obtain rfl : w = word.reverse := Option.some.inj hsome
            rw [List.reverse_reverse, if_pos hsuffix]
    | cons w' ws =>
        cases hwords : (w.reverse :: w' :: ws).reverse with
        | nil => simp at hwords
        | cons v vs =>
            cases vs with
            | nil =>
                have hlength := congrArg List.length hwords
                simp at hlength
            | cons u us => simp [Scan.endWord, hwords]
  · simp

/-! ## What is offered fits -/

/-- **The word that is completed ends the raw text**, and taking it away leaves the scanner in front
of the command of the same stage. -/
theorem exists_atCommand_of_completedWord? (h : completedWord? text = some word)
    (hword : ∀ c ∈ word, isPlain c = true) :
    ∃ before, text = before ++ word ∧ (scan before).AtCommand ∧
      (scan before).finished = (scan text).finished := by
  obtain ⟨hquote, hwords, ⟨hnone, rfl⟩ | ⟨hsome, before, rfl⟩⟩ := completedWord?_eq_some_iff.mp h
  · exact ⟨text, by simp, ⟨hquote, hwords, by simp [hnone]⟩, rfl⟩
  · have hscan := scan_append before word
    have hbefore : (scan before).quote = none := by
      rw [← Scan.quote_foldl_step_of_plain (Scan.wellQuoted_scan before) hword, ← hscan, hquote]
    by_cases hne : word = []
    · subst hne
      rw [List.append_nil] at *
      exact ⟨before, by simp, ⟨hquote, hwords, by simp [hsome]⟩, rfl⟩
    · rw [hscan, Scan.foldl_step_of_plain hbefore hne hword] at hwords hsome ⊢
      refine ⟨before, rfl, ⟨hbefore, hwords, ?_⟩, rfl⟩
      simpa [Scan.append] using hsome

theorem mem_completions_iff {k : Nat} :
    (name, k) ∈ completions text ↔
      ∃ word, completedWord? text = some word ∧ name ∈ completionNames ∧ word <+: name ∧
        k = word.length := by
  unfold completions
  cases completedWord? text with
  | none => simp
  | some word =>
      simp only [List.mem_map, List.mem_filter, Text.startsWith, List.isPrefixOf_iff_prefix,
        Prod.mk.injEq, Option.some.injEq, exists_eq_left']
      constructor
      · rintro ⟨n, ⟨hn, hbegins⟩, rfl, rfl⟩
        exact ⟨hn, hbegins, rfl⟩
      · rintro ⟨hn, hbegins, rfl⟩
        exact ⟨name, ⟨hn, hbegins⟩, rfl, rfl⟩

/-- The names that are offered are plain. -/
theorem isPlain_of_mem_completionNames (h : name ∈ completionNames) :
    name ≠ [] ∧ ∀ c ∈ name, isPlain c = true := by
  obtain ⟨hne, hletters⟩ := isLetter_of_mem_completionNames h
  exact ⟨hne, fun c hc => isPlain_of_isLetter (hletters c hc)⟩

/-- **What is offered fits**: it replaces characters of the text and becomes the command of the same
stage. -/
theorem scan_take_append_of_mem_completions {k : Nat} (h : (name, k) ∈ completions text) :
    k ≤ text.length ∧
      scan (text.take (text.length - k) ++ name) = Scan.command (scan text).finished name := by
  obtain ⟨word, hword, hname, ⟨rest, rfl⟩, rfl⟩ := mem_completions_iff.mp h
  obtain ⟨hne, hplain⟩ := isPlain_of_mem_completionNames hname
  obtain ⟨before, rfl, hat, hfinished⟩ := exists_atCommand_of_completedWord? hword fun c hc =>
    hplain c (List.mem_append_left _ hc)
  have htake : (before ++ word).take ((before ++ word).length - word.length) = before := by
    rw [List.length_append, Nat.add_sub_cancel, List.take_left]
  refine ⟨by simp, ?_⟩
  rw [htake, scan_append, Scan.foldl_step_of_plain hat.quote hne hplain,
    hat.append, hfinished]

/-! ## What fits is offered -/

/-- The part of a text after its last unquoted bar holds no quote. -/
inductive EndsUnquoted : Text → Prop
  /-- There is no such bar. -/
  | only {stage : Text} (h : ∀ c ∈ stage, isQuote c = false ∧ c ≠ '|') : EndsUnquoted stage
  /-- There is one, outside of quotes. -/
  | after {before stage : Text} (hbar : (scan before).quote = none)
      (h : ∀ c ∈ stage, isQuote c = false ∧ c ≠ '|') : EndsUnquoted (before ++ '|' :: stage)

/-- Such a part begins where a stage begins. -/
theorem EndsUnquoted.exists_stage (h : EndsUnquoted text) :
    ∃ before stage finished, text = before ++ stage ∧ scan before = Scan.between finished [] ∧
      ∀ c ∈ stage, isQuote c = false ∧ c ≠ '|' := by
  cases h with
  | only h => exact ⟨[], text, [], rfl, rfl, h⟩
  | @after before stage hbar h =>
      refine ⟨before ++ ['|'], stage, (scan before).endStage.finished, by simp, ?_, h⟩
      rw [scan_append, List.foldl_cons, List.foldl_nil, Scan.step_bar hbar]
      simp [Scan.between, Scan.endStage, hbar]

/-- **Without quotes the open word is written as it is**: it ends the raw text. -/
theorem Scan.suffix_of_word_eq_some (finished : List (List Text)) {stage : Text}
    (h : ∀ c ∈ stage, isQuote c = false ∧ c ≠ '|') :
    (stage.foldl step (between finished [])).quote = none ∧
      ∀ w, (stage.foldl step (between finished [])).word = some w → w.reverse <:+ stage := by
  induction stage using List.reverseRecOn with
  | nil => exact ⟨rfl, nofun⟩
  | append_singleton stage c ih =>
      obtain ⟨hquote, hsuffix⟩ := ih fun d hd => h d (List.mem_append_left _ hd)
      obtain ⟨hc, hbar⟩ := h c (by simp)
      rw [List.foldl_append, List.foldl_cons, List.foldl_nil]
      generalize stage.foldl step (between finished []) = s at hquote hsuffix ⊢
      rcases isPlain_or_isQuote_or_isBlank_or_eq_bar c with hplain | hq | hb | rfl
      · rw [step_of_isPlain hquote hplain]
        refine ⟨hquote, ?_⟩
        intro w hw
        cases hopen : s.word with
        | none =>
            obtain rfl : [c] = w := by simpa [append, hopen] using hw
            exact List.suffix_append stage [c]
        | some v =>
            obtain rfl : c :: v = w := by simpa [append, hopen] using hw
            obtain ⟨before, hbefore⟩ := hsuffix v hopen
            exact ⟨before, by rw [List.reverse_cons, ← List.append_assoc, hbefore]⟩
      · rw [hc] at hq
        cases hq
      · rw [step_of_isBlank hquote hb]
        exact ⟨s.endWord_quote.trans hquote, fun w hw => by simp at hw⟩
      · exact absurd rfl hbar

/-- Where a stage ends without quotes, the word that is completed is the one that is open. -/
theorem completedWord?_of_endsUnquoted (h : EndsUnquoted text) :
    (scan text).quote = none ∧
      ∀ word, completedWord? text = some word ↔
        (scan text).words = [] ∧ ((scan text).word.getD []).reverse = word := by
  obtain ⟨before, stage, finished, rfl, hbefore, hstage⟩ := h.exists_stage
  obtain ⟨hquote, hsuffix⟩ := Scan.suffix_of_word_eq_some finished hstage
  rw [← hbefore] at hquote hsuffix
  rw [← scan_append] at hquote hsuffix
  refine ⟨hquote, fun word => ?_⟩
  rw [completedWord?_eq_some_iff]
  cases hword : (scan (before ++ stage)).word with
  | none =>
      rw [Option.getD_none, List.reverse_nil]
      constructor
      · rintro ⟨-, hwords, ⟨-, rfl⟩ | ⟨hsome, -⟩⟩
        · exact ⟨hwords, rfl⟩
        · cases hsome
      · rintro ⟨hwords, rfl⟩
        exact ⟨hquote, hwords, Or.inl ⟨rfl, rfl⟩⟩
  | some w =>
      have hend : w.reverse <:+ before ++ stage :=
        (hsuffix w hword).trans (List.suffix_append before stage)
      constructor
      · rintro ⟨-, hwords, ⟨hnone, -⟩ | ⟨hsome, -⟩⟩
        · cases hnone
        · obtain rfl : w = word.reverse := Option.some.inj hsome
          exact ⟨hwords, List.reverse_reverse word⟩
      · rintro ⟨hwords, rfl⟩
        exact ⟨hquote, hwords, Or.inr ⟨by simp, hend⟩⟩

/-- Which continuations make a name the only word of the stage. -/
theorem lastStage_append_eq_iff {rest : Text} (hquote : (scan text).quote = none)
    (hrest : ∀ c ∈ rest, isPlain c = true) (hname : name ≠ []) :
    lastStage (text ++ rest) = ⟨[name], true, false⟩ ↔
      (scan text).words = [] ∧ ((scan text).word.getD []).reverse ++ rest = name := by
  rw [lastStage, scan_append]
  generalize scan text = s at hquote ⊢
  obtain ⟨finished, words, open?, quote⟩ := s
  obtain rfl : quote = none := hquote
  by_cases hne : rest = []
  · subst hne
    cases open? with
    | none => simp [Scan.endWord, hname.symm]
    | some w => simp [Scan.endWord, List.append_eq_singleton_iff]
  · rw [Scan.foldl_step_of_plain rfl hne hrest]
    simp [Scan.endWord, Scan.append, List.append_eq_singleton_iff]

/-- **Completion is sound and complete.**  What is offered replaces characters of the text and makes
the name the only word of the last stage, still open and outside of quotes, while the stages before
it stay.  A name is offered at the end of a stage without quotes exactly if letters can be typed
that make it this word; nothing is offered inside of a quote.  In a word there is a first word to
look at, whatever the text. -/
theorem completions_sound_and_complete (text : Text) :
    (∀ name k, (name, k) ∈ completions text →
      k ≤ text.length ∧ name ∈ completionNames ∧
        lastStage (text.take (text.length - k) ++ name) = ⟨[name], true, false⟩ ∧
        (scan (text.take (text.length - k) ++ name)).groups.dropLast =
          (scan text).groups.dropLast) ∧
    (EndsUnquoted text → ∀ name ∈ completionNames,
      ((∃ k, (name, k) ∈ completions text) ↔
        ∃ letters : Text, (∀ c ∈ letters, isLetter c = true) ∧
          lastStage (text ++ letters) = ⟨[name], true, false⟩)) ∧
    ((lastStage text).inQuote = true → completions text = []) ∧
    ((lastStage text).inWord = true → (lastStage text).words ≠ []) := by
  refine ⟨fun name k h => ?_, fun hends name hname => ?_, fun hquote => ?_, fun hword => ?_⟩
  · obtain ⟨hk, hscan⟩ := scan_take_append_of_mem_completions h
    obtain ⟨word, -, hname, -, -⟩ := mem_completions_iff.mp h
    refine ⟨hk, hname, lastStage_of_scan_eq_command hscan, ?_⟩
    rw [hscan, Scan.dropLast_groups, Scan.dropLast_groups]
    rfl
  · obtain ⟨hne, hletters⟩ := isLetter_of_mem_completionNames hname
    have hquote := (completedWord?_of_endsUnquoted hends).1
    constructor
    · rintro ⟨k, hk⟩
      obtain ⟨word, hword, -, ⟨rest, rfl⟩, -⟩ := mem_completions_iff.mp hk
      obtain ⟨hwords, hopen⟩ := ((completedWord?_of_endsUnquoted hends).2 word).mp hword
      have hrest : ∀ c ∈ rest, isLetter c = true := fun c hc =>
        hletters c (List.mem_append_right _ hc)
      refine ⟨rest, hrest, ?_⟩
      rw [lastStage_append_eq_iff hquote (fun c hc => isPlain_of_isLetter (hrest c hc)) hne, hopen]
      exact ⟨hwords, rfl⟩
    · rintro ⟨letters, hplain, hlast⟩
      rw [lastStage_append_eq_iff hquote (fun c hc => isPlain_of_isLetter (hplain c hc)) hne]
        at hlast
      have hword := ((completedWord?_of_endsUnquoted hends).2 _).mpr ⟨hlast.1, rfl⟩
      exact ⟨_, mem_completions_iff.mpr ⟨_, hword, hname, ⟨letters, hlast.2⟩, rfl⟩⟩
  · unfold completions completedWord?
    simp [hquote]
  · intro hwords
    obtain ⟨w, hw⟩ := Option.isSome_iff_exists.mp hword
    simp [lastStage, Scan.endWord, hw] at hwords

/-- After a stage with a quoted bar, a letter is completed, and the rest of the name can be
typed. -/
theorem completions_sound_and_complete_quoted_bar :
    let text : Text := ['\'', '|', '\'', '|', 'g']
    EndsUnquoted text ∧ ['g', 'r', 'e', 'p'] ∈ completionNames ∧
      (['g', 'r', 'e', 'p'], 1) ∈ completions text ∧
      lastStage ['\'', '|', '\'', '|', 'g', 'r', 'e', 'p'] = ⟨[['g', 'r', 'e', 'p']], true, false⟩ ∧
      ∃ letters : Text, (∀ c ∈ letters, isLetter c = true) ∧
        lastStage (text ++ letters) = ⟨[['g', 'r', 'e', 'p']], true, false⟩ := by
  intro text
  have hends : EndsUnquoted (['\'', '|', '\''] ++ '|' :: ['g']) :=
    .after (by decide) (by simp; decide)
  have hname : ['g', 'r', 'e', 'p'] ∈ completionNames := by decide
  have hmem : (['g', 'r', 'e', 'p'], 1) ∈ completions text := by decide
  obtain ⟨hsound, hcomplete, -, -⟩ := completions_sound_and_complete text
  exact ⟨hends, hname, hmem, (hsound _ _ hmem).2.2.1, (hcomplete hends _ hname).mp ⟨1, hmem⟩⟩

/-- A word with a quoted beginning grows at its raw end, and one that ends in a quote does not. -/
example :
    completions ['"', '"', 'e', 'c'] = [(['e', 'c', 'h', 'o'], 2)] ∧
      completions ['e', '"', 'c', '"'] = [] := by
  decide

end TextShell
