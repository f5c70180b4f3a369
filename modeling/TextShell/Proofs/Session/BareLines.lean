import TextShell.Proofs.Line.Encoding
import TextShell.Proofs.Session.Output
import TextShell.Proofs.Session.Trimming
import TextShell.Proofs.Text.Words

/-!
# Lines without quotes and bars

Where a line has no quote and no bar, nothing but blanks cuts it.  The scanner does that character by
character, with a word in progress that it may or may not have; a text is cut into its words all at
once.  Both find the same words.

The invariant relates the word in progress to the run of characters that the cut takes as one: what
was read so far and what cutting the rest will give, the word in progress in front of it
(`Scan.wordsBefore`), are the same words at every point of the line (`Scan.wordsBefore_step`).  At its
end nothing is left to be cut.

## Main Definitions

* `Text.Bare` — a text with no quote and no bar
* `Scan.Bare` — how far a scan is that has met none
* `Scan.wordsBefore` — the words that a scan has, if what comes next is cut at its blanks
-/

namespace TextShell

/-- **A text with no quote and no bar.** -/
def Text.Bare (t : Text) : Prop :=
  ∀ c ∈ t, isQuote c = false ∧ c ≠ '|'

-- decided along the text, not over all characters
instance (t : Text) : Decidable t.Bare :=
  List.decidableBAll _ t

/-- In such a text there are plain characters and blanks only. -/
theorem Text.Bare.isPlain_or_isBlank {t : Text} (h : t.Bare) {c : Char} (hc : c ∈ t) :
    isPlain c = true ∨ isBlank c = true := by
  obtain ⟨hquote, hbar⟩ := h c hc
  rcases isPlain_or_isQuote_or_isBlank_or_eq_bar c with hplain | hq | hblank | rfl
  · exact .inl hplain
  · rw [hquote] at hq
    cases hq
  · exact .inr hblank
  · exact absurd rfl hbar

/-! ## Scanning -/

namespace Scan

/-- The word in progress as far as it was read, empty if there is none. -/
def openWord (s : Scan) : Text :=
  (s.word.getD []).reverse

/-- **A scan that has met no quote**: none is open, and a word is in progress only if it has a
character. -/
structure Bare (s : Scan) : Prop where
  quote : s.quote = none
  word : s.word = none ∨ IsWord s.openWord

/-- **The words of the stage in progress** if what comes next is cut at its blanks. -/
def wordsBefore (s : Scan) (rest : Text) : List Text :=
  s.words.reverse ++ (s.openWord ++ rest).words

variable {s : Scan} {c : Char}

/-- Nothing is left to be cut at the end. -/
theorem Bare.reverse_words_endWord (h : s.Bare) :
    s.endWord.words.reverse = s.wordsBefore [] := by
  rcases h.word with hnone | hword
  · rw [endWord_of_word_eq_none hnone, wordsBefore, openWord, hnone]
    exact (List.append_nil _).symm
  · obtain ⟨finished, words, word, quote⟩ := s
    cases word with
    | none => exact absurd rfl hword.1
    | some w =>
        rw [wordsBefore, List.append_nil, Text.words_of_isWord hword]
        exact List.reverse_cons

/-- After a blank there is no word in progress. -/
theorem Bare.endWord (h : s.Bare) : s.endWord.Bare :=
  ⟨s.endWord_quote.trans h.quote, .inl s.endWord_word⟩

/-- A blank ends the word in progress, be it read or be it cut. -/
theorem Bare.wordsBefore_endWord (h : s.Bare) (hc : isBlank c = true) (rest : Text) :
    s.endWord.wordsBefore rest = s.wordsBefore (c :: rest) := by
  have hclosed : s.endWord.wordsBefore rest = s.wordsBefore [] ++ rest.words := by
    rw [wordsBefore, h.reverse_words_endWord, openWord, endWord_word]
    rfl
  rw [hclosed, wordsBefore, wordsBefore, List.append_assoc, List.append_nil]
  -- without a word in progress the cut drops the blank, with one it ends the word there
  rcases h.word with hnone | hword
  · rw [openWord, hnone]
    exact congrArg _ (Text.words_cons_of_isBlank hc rest).symm
  · rw [Text.words_of_isWord hword, Text.words_append_cons hword hc]
    rfl

/-- A plain character joins the word in progress, or begins one. -/
theorem openWord_append (s : Scan) (t : Text) : (s.append t).openWord = s.openWord ++ t := by
  simp [openWord, append]

theorem Bare.append (h : s.Bare) (hc : isPlain c = true) : (s.append [c]).Bare := by
  obtain ⟨hblank, -, -⟩ := isPlain_iff.mp hc
  refine ⟨h.quote, .inr ?_⟩
  rw [openWord_append]
  refine ⟨by simp, fun d hd => ?_⟩
  rcases List.mem_append.mp hd with hd | hd
  · rcases h.word with hnone | hword
    · rw [openWord, hnone] at hd
      cases hd
    · exact hword.2 d hd
  · rw [List.mem_singleton.mp hd, hblank]

theorem wordsBefore_append (s : Scan) (t rest : Text) :
    (s.append t).wordsBefore rest = s.wordsBefore (t ++ rest) := by
  rw [wordsBefore, openWord_append, List.append_assoc]
  rfl

/-- **One character** leaves the words as they are, whether it is read or cut. -/
theorem Bare.step (h : s.Bare) (hc : isPlain c = true ∨ isBlank c = true) :
    (s.step c).Bare ∧ (s.step c).finished = s.finished ∧
      ∀ rest, (s.step c).wordsBefore rest = s.wordsBefore (c :: rest) := by
  rcases hc with hplain | hblank
  · rw [step_of_isPlain h.quote hplain]
    exact ⟨h.append hplain, rfl, s.wordsBefore_append [c]⟩
  · rw [step_of_isBlank h.quote hblank]
    exact ⟨h.endWord, s.endWord_finished, h.wordsBefore_endWord hblank⟩

/-- **A text without quotes and bars** leaves them as they are as well. -/
theorem Bare.foldl_step (h : s.Bare) {t : Text} (ht : t.Bare) :
    (t.foldl Scan.step s).Bare ∧ (t.foldl Scan.step s).finished = s.finished ∧
      ∀ rest, (t.foldl Scan.step s).wordsBefore rest = s.wordsBefore (t ++ rest) := by
  -- along the text, from any such scan: what one character leaves is the next one's to start from
  induction t generalizing s with
  | nil => exact ⟨h, rfl, fun _ => rfl⟩
  | cons c cs ih =>
      obtain ⟨hbare, hfinished, hwords⟩ := h.step (ht.isPlain_or_isBlank List.mem_cons_self)
      obtain ⟨hbare', hfinished', hwords'⟩ := ih hbare fun d hd => ht d (List.mem_cons_of_mem _ hd)
      exact ⟨hbare', hfinished'.trans hfinished, fun rest => (hwords' rest).trans (hwords _)⟩

theorem bare_empty : ({} : Scan).Bare :=
  ⟨rfl, .inl rfl⟩

end Scan

section Stages

variable {line : Text}

/-- No quote is open anywhere on such a line. -/
theorem inQuote_lastStage_of_bare (h : line.Bare) : (lastStage line).inQuote = false := by
  rw [lastStage, scan, (Scan.bare_empty.foldl_step h).1.quote]
  rfl

/-- **The scanner finds the words that the blanks leave**, in a single stage. -/
theorem stages_of_bare (h : line.Bare) :
    stages line = if line.words = [] then [] else [line.words] := by
  obtain ⟨hbare, hfinished, hwords⟩ := Scan.bare_empty.foldl_step h
  have hgroups : (scan line).groups = [line.words] := by
    rw [scan, Scan.groups_eq, hfinished, hbare.reverse_words_endWord, hwords, List.append_nil]
    rfl
  rw [stages, hgroups]
  by_cases hnone : line.words = [] <;> simp [hnone]

/-- Its outer blanks make no difference to a line without quotes. -/
theorem stages_trim_of_bare (h : line.Bare) : stages line.trim = stages line := by
  have htrim : line.trim.Bare := fun c hc => h c <| by
    rw [← line.blanks_append_trim_append_blanks]
    exact List.mem_append_right _ (List.mem_append_left _ hc)
  have hafter : stages (line.trim ++ line.blanksAfter) = stages line.trim :=
    stages_append_blanks (inQuote_lastStage_of_bare htrim) fun c => Text.isBlank_of_mem_blanksAfter
  have hbefore : scan (line.blanksBefore ++ (line.trim ++ line.blanksAfter)) =
      scan (line.trim ++ line.blanksAfter) :=
    scan_blanks_append (fun c => Text.isBlank_of_mem_blanksBefore) _
  rw [← hafter, stages, ← hbefore, line.blanks_append_trim_append_blanks]
  rfl

end Stages

/-! ## Writing words -/

/-- Words are written with a space between neighbours on a line of their own, if there are any. -/
theorem printOutput_joinWith {ts : List Text} (h : ∀ t ∈ ts, IsWord t) :
    printOutput (Text.joinWith [' '] ts) =
      ⟨if ts = [] then [] else [.printed (Text.joinWith [' '] ts ++ ['\n'])], .ok ()⟩ := by
  by_cases hne : ts = []
  · rw [hne]
    rfl
  · have hwords : (Text.joinWith [' '] ts).words = ts := Text.words_joinWith (by decide) h
    have hjoined : Text.joinWith [' '] ts ≠ [] := by
      intro hnil
      rw [hnil] at hwords
      exact hne hwords.symm
    -- no word holds the character that would end the line
    have hno : '\n' ∉ Text.joinWith [' '] ts := by
      refine Text.not_mem_joinWith (by decide) fun t ht hmem => ?_
      have hblank := (h t ht).2 _ hmem
      revert hblank
      decide
    have hlast : (Text.joinWith [' '] ts).getLast? ≠ some '\n' := fun hlast =>
      hno (List.mem_of_getLast? hlast)
    rw [printOutput, if_neg (by simpa using hjoined), if_neg hlast, if_neg hne]
    rfl

namespace Session

/-- A line with the words of a command that writes its arguments. -/
theorem execute_of_stages_echo (w : World) {vars : Variables} {line : Text} {args : List Text}
    (hline : stages (substitute vars.lookup line) = [Builtin.echo.name :: args])
    (hargs : ∀ t ∈ args, IsWord t) :
    execute w vars line =
      ⟨⟨[.logged (.parsed (.pipeline ⟨.builtin .echo args, []⟩)),
          .logged (.running (.builtin .echo args))] ++
        (if args = [] then [] else [.printed (Text.joinWith [' '] args ++ ['\n'])]),
        .ok .continue⟩, vars⟩ := by
  have hpipeline : Statement.ofLine vars.lookup line =
      some (.pipeline ⟨.builtin .echo args, []⟩) := by
    rw [Statement.ofLine, hline]
    cases args <;> rfl
  have hrun : Pipeline.run w ⟨.builtin .echo args, []⟩ =
      ⟨[.logged (.running (.builtin .echo args))], .ok (Text.joinWith [' '] args)⟩ := rfl
  rw [execute_of_pipeline hpipeline, hrun]
  simp [Turn.keep, Run.log, bind, Run.andThen, Run.emit, printOutput_joinWith hargs, pure,
    Run.done, Pipeline.status]

/-- **Lines, texts and counts agree on what a word is.**  A line with no quote and no bar has one
stage, the words that its blanks leave, or none if there is no such word.  So its outer blanks make no
difference, and the words of the line are counted as those of a text are.

If the line has no dollar sign either and its first word is `echo`, it does nothing but write its
other words, with one space between neighbours and a line feed after them, or nothing if there are
none.  What is written has one word less than the line. -/
theorem splits_bare_line_into_words {line : Text} (h : line.Bare) :
    stages line = (if line.words = [] then [] else [line.words]) ∧
    stages line.trim = stages line ∧
    (Counts.ofText line).words = (stages line).flatten.length ∧
    ∀ (w : World) (vars : Variables) (args : List Text), '$' ∉ line →
      line.words = Builtin.echo.name :: args →
      let joined := Text.joinWith [' '] args
      execute w vars line =
        ⟨⟨[.logged (.parsed (.pipeline ⟨.builtin .echo args, []⟩)),
            .logged (.running (.builtin .echo args))] ++
          (if args = [] then [] else [.printed (joined ++ ['\n'])]), .ok .continue⟩, vars⟩ ∧
      joined.words = args ∧
      (Counts.ofText joined).words + 1 = (Counts.ofText line).words := by
  have hstages := stages_of_bare h
  refine ⟨hstages, stages_trim_of_bare h, ?_, fun w vars args hdollar hwords => ?_⟩
  · rw [hstages, Counts.ofText]
    by_cases hnone : line.words = [] <;> simp [hnone]
  · have hsubstitute : substitute vars.lookup line = line :=
      (Inert.of_not_mem hdollar).substitute_eq
    have hecho : stages (substitute vars.lookup line) = [Builtin.echo.name :: args] := by
      rw [hsubstitute, hstages, hwords]
      rfl
    have hargs : ∀ t ∈ args, IsWord t := fun t ht =>
      Text.isWord_of_mem_words (hwords ▸ List.mem_cons_of_mem _ ht)
    have hjoined : (Text.joinWith [' '] args).words = args :=
      Text.words_joinWith (by decide) hargs
    refine ⟨execute_of_stages_echo w hecho hargs, hjoined, ?_⟩
    rw [Counts.ofText, Counts.ofText, hjoined, hwords, List.length_cons]

/-- Blanks of several scripts, one of them the end of a record, before, between and after words. -/
theorem splits_bare_line_into_words_mixed_blanks :
    let w : World := ⟨fun _ => none, fun _ _ _ => .interrupted, ['/']⟩
    let line : Text := ['\u3000'] ++ Builtin.echo.name ++
      ['\u00a0', 'a', '\x0b', '\x1e', 'b', '\u2028', ' ']
    (line.Bare ∧ '$' ∉ line ∧ line.words = Builtin.echo.name :: [['a'], ['b']]) ∧
      stages line = [[Builtin.echo.name, ['a'], ['b']]] ∧ stages line.trim = stages line ∧
      (Counts.ofText line).words = 3 ∧
      (execute w .empty line).printed = ['a', ' ', 'b', '\n'] := by
  intro w line
  have hbare : line.Bare := by decide
  have hdollar : '$' ∉ line := by decide
  have hwords : line.words = Builtin.echo.name :: [['a'], ['b']] := by decide +kernel
  obtain ⟨hstages, htrim, hcounts, hecho⟩ := splits_bare_line_into_words hbare
  obtain ⟨hexecute, -, -⟩ := hecho w .empty [['a'], ['b']] hdollar hwords
  rw [hwords] at hstages
  refine ⟨⟨hbare, hdollar, hwords⟩, hstages, htrim, ?_, ?_⟩
  · rw [hcounts, hstages]
    rfl
  · rw [hexecute]
    rfl

end Session

end TextShell
