import TextShell.Proofs.Pipeline
import TextShell.Proofs.Script

/-!
# What commands let through

A command that goes wrong is meant to report an error, which its session takes up.  Most do, but
some refusals of what a command relies on are expected nowhere and pass through everything around
it: a path with a null character, a count with too many digits, a pattern that asks for too much, a
match with a misplaced group.  `Command.Breaks` lists them, together with interrupted programs, and
`Command.outcome_run_eq_error_iff` shows that there are no others.

Commands over files fail at the first file that makes them fail (`FirstFailure`), as a pipeline does
at the first command that fails (`outcome_runCommands_eq_error_iff`).
-/

namespace TextShell

/-- The first failure of a list whose members fail in certain ways. -/
inductive FirstFailure {α : Type} (Fails : α → Failure → Prop) : List α → Failure → Prop
  /-- The first member fails. -/
  | here {a : α} {as : List α} {f : Failure} : Fails a f → FirstFailure Fails (a :: as) f
  /-- The first member does not fail, and the failure is that of the others. -/
  | later {a : α} {as : List α} {f : Failure} : (∀ g, ¬ Fails a g) → FirstFailure Fails as f →
      FirstFailure Fails (a :: as) f

/-- A path fails if it holds a null character, or if what is done with the text of its file does. -/
inductive FileFails (w : World) (use : Text → Run Text) (path : Text) : Failure → Prop
  | null : holdsNull path = true → FileFails w use path .nullInPath
  | text {text : Text} {f : Failure} : w.Reads path text → (use text).outcome = .error f →
      FileFails w use path f

/-- A path that is to be counted fails if it holds a null character or there is no file to read. -/
inductive CountFails (w : World) (path : Text) : Failure → Prop
  | null : holdsNull path = true → CountFails w path .nullInPath
  | refused {e : FileError} : w.Refuses path e →
      CountFails w path (.shell (.execution ("wc: " ++ path ++ ": " ++ e.message path) none))

/-- **The failures that a command lets through** without reporting an error. -/
inductive Command.Breaks (w : World) (input : Text) : Command → Failure → Prop
  /-- The user interrupts a program. -/
  | interrupted {program : Text} {args : List Text} :
      (∀ t ∈ program :: args, holdsNull t = false) →
      w.program program args (Utf8.encode input) = .interrupted →
      Breaks w input (.external program args) .interrupted
  /-- A path with a null character is to be written out. -/
  | cat {args : List Text} : FirstFailure (FileFails w pure) args .nullInPath →
      Breaks w input (.builtin .cat args) .nullInPath
  /-- A path with a null character is to be counted, and all files before it can be. -/
  | wc {args : List Text} : FirstFailure (CountFails w) args .nullInPath →
      Breaks w input (.builtin .wc args) .nullInPath
  /-- A count has too many digits. -/
  | countDigits {args : List Text} {digits : Nat} :
      GrepOptions.ofArguments args = .error (.countDigits digits) →
      Breaks w input (.builtin .grep args) (.countDigits digits)
  /-- A pattern asks for too much. -/
  | pattern {args : List Text} {o : GrepOptions} {e : Excess} :
      GrepOptions.ofArguments args = .ok o → o.regex = .error (.excess e) →
      Breaks w input (.builtin .grep args) (.pattern e)
  /-- The input holds a match with a misplaced group. -/
  | grepInput {args : List Text} {o : GrepOptions} {r : Regex} {e : Excess} :
      GrepOptions.ofArguments args = .ok o → o.regex = .ok r → o.files = [] →
      r.select o.after input = .error e → Breaks w input (.builtin .grep args) (.pattern e)
  /-- A path with a null character is to be searched, or the text of a file holds a match with a
  misplaced group. -/
  | grepFiles {args : List Text} {o : GrepOptions} {r : Regex} {f : Failure} :
      GrepOptions.ofArguments args = .ok o → o.regex = .ok r →
      FirstFailure (FileFails w (selectFrom r o)) o.files f →
      Breaks w input (.builtin .grep args) f

variable {w : World} {input : Text}

/-! ## First failures -/

theorem firstFailure_cons_iff {α : Type} {Fails : α → Failure → Prop} {a : α} {as : List α}
    {f : Failure} :
    FirstFailure Fails (a :: as) f ↔ Fails a f ∨ (∀ g, ¬ Fails a g) ∧ FirstFailure Fails as f := by
  constructor
  · intro h
    cases h with
    | here ha => exact Or.inl ha
    | later hno has => exact Or.inr ⟨hno, has⟩
  · rintro (ha | ⟨hno, has⟩)
    · exact .here ha
    · exact .later hno has

/-- The first failure is one of the failures. -/
theorem FirstFailure.exists_mem {α : Type} {Fails : α → Failure → Prop} {as : List α} {f : Failure}
    (h : FirstFailure Fails as f) : ∃ a ∈ as, Fails a f := by
  induction h with
  | here ha => exact ⟨_, List.mem_cons_self, ha⟩
  | later _ _ ih =>
      obtain ⟨a, hmem, ha⟩ := ih
      exact ⟨a, List.mem_cons_of_mem _ hmem, ha⟩

/-! ## Files -/

section Files

variable {use : Text → Run Text} {path : Text} {f : Failure}

theorem fileFails_iff_of_null (hpath : holdsNull path = true) :
    FileFails w use path f ↔ f = .nullInPath := by
  constructor
  · rintro (_ | ⟨⟨hnot, -⟩, -⟩)
    · rfl
    · rw [hpath] at hnot
      cases hnot
  · rintro rfl
    exact .null hpath

theorem fileFails_iff_of_reads {text : Text} (h : w.Reads path text) :
    FileFails w use path f ↔ (use text).outcome = .error f := by
  constructor
  · rintro (hnull | ⟨htext, huse⟩)
    · rw [h.1] at hnull
      cases hnull
    · rwa [h.unique htext]
  · exact fun huse => .text h huse

theorem not_fileFails_of_refuses {e : FileError} (h : w.Refuses path e) :
    ¬ FileFails w use path f := by
  rintro (hnull | ⟨htext, -⟩)
  · rw [h.1] at hnull
    cases hnull
  · exact h.not_reads htext

/-- **Files that are collected** fail at the first one that does. -/
theorem outcome_collectFiles_eq_error_iff (command : Text) {paths : List Text} :
    (collectFiles w command use paths).outcome = .error f ↔
      FirstFailure (FileFails w use) paths f := by
  induction paths with
  | nil => exact ⟨nofun, nofun⟩
  | cons path paths ih =>
      rw [firstFailure_cons_iff, collectFiles]
      rcases w.null_or_reads_or_refuses path with hpath | ⟨text, htext⟩ | ⟨e, he⟩
      · simp only [World.readText_of_null hpath, Run.fail_bind, fileFails_iff_of_null hpath]
        simp [Run.fail, eq_comm]
      · simp only [htext.readText_eq, fileFails_iff_of_reads htext, Run.outcome_bind_eq_error_iff]
        -- the other files matter only if the text of this one can be used
        cases huse : (use text).outcome with
        | error g => simp [Run.outcome_bind_eq_error_iff, huse]
        | ok output => simp [Run.outcome_bind_eq_error_iff, huse, ih, pure, Run.done]
      · simp only [he.readText_eq, not_fileFails_of_refuses he]
        simp [Run.outcome_bind_eq_error_iff, warnAbout, Run.emit, ih]

theorem countFails_iff_of_null (hpath : holdsNull path = true) :
    CountFails w path f ↔ f = .nullInPath := by
  constructor
  · rintro (_ | ⟨hnot, -⟩)
    · rfl
    · rw [hpath] at hnot
      cases hnot
  · rintro rfl
    exact .null hpath

theorem not_countFails_of_reads {text : Text} (h : w.Reads path text) : ¬ CountFails w path f := by
  rintro (hnull | hrefused)
  · rw [h.1] at hnull
    cases hnull
  · exact hrefused.not_reads h

theorem countFails_iff_of_refuses {e : FileError} (h : w.Refuses path e) :
    CountFails w path f ↔
      f = .shell (.execution ("wc: " ++ path ++ ": " ++ e.message path) none) := by
  constructor
  · rintro (hnull | hrefused)
    · rw [h.1] at hnull
      cases hnull
    · rw [h.unique hrefused]
  · rintro rfl
    exact .refused h

/-- **Files that are counted** fail at the first one that does. -/
theorem outcome_countFiles_eq_error_iff {paths : List Text} :
    (countFiles w paths).outcome = .error f ↔ FirstFailure (CountFails w) paths f := by
  induction paths with
  | nil => exact ⟨nofun, nofun⟩
  | cons path paths ih =>
      rw [firstFailure_cons_iff, countFiles]
      rcases w.null_or_reads_or_refuses path with hpath | ⟨text, htext⟩ | ⟨e, he⟩
      · simp only [World.readText_of_null hpath, Run.fail_bind, countFails_iff_of_null hpath]
        simp [Run.fail, eq_comm]
      · simp only [htext.readText_eq, not_countFails_of_reads htext]
        simp [Run.outcome_bind_eq_error_iff, ih, pure, Run.done]
      · simp only [he.readText_eq, countFails_iff_of_refuses he]
        simp only [Run.outcome_bind_eq_error_iff]
        simpa [Run.report, Run.fail] using eq_comm

end Files

/-! ## Commands -/

section Commands

variable {args : List Text} {f : Failure}

/-- Copying a text does not fail, so only a path can. -/
theorem FileFails.eq_nullInPath_of_pure {path : Text} (h : FileFails w pure path f) :
    f = .nullInPath := by
  cases h with
  | null => rfl
  | text _ huse => cases huse

/-- A file that cannot be counted is reported, so only a path is not. -/
theorem CountFails.eq_nullInPath_of_escapes {path : Text} (h : CountFails w path f)
    (hf : f.Escapes) : f = .nullInPath := by
  cases h with
  | null => rfl
  | refused => exact absurd rfl (hf _)

/-- `cat` fails at the first path that does. -/
theorem outcome_runCat_eq_error_iff :
    (runCat w args input).outcome = .error f ↔ FirstFailure (FileFails w pure) args f := by
  rw [← outcome_collectFiles_eq_error_iff "cat", runCat]
  cases args with
  | nil => exact ⟨nofun, nofun⟩
  | cons path paths => rfl

/-- `wc` fails at the first path that does. -/
theorem outcome_runWc_eq_error_iff :
    (runWc w args input).outcome = .error f ↔ FirstFailure (CountFails w) args f := by
  rw [← outcome_countFiles_eq_error_iff, runWc]
  cases args with
  | nil => exact ⟨nofun, nofun⟩
  | cons path paths =>
      simp [Run.outcome_bind_eq_error_iff, pure, Run.done]

/-- What escapes is not the report of an error. -/
theorem Failure.Escapes.outcome_report_ne {α : Type} (hf : f.Escapes) (message : Text) :
    (Run.report message : Run α).outcome ≠ .error f :=
  fun h => hf _ (Except.error.inj h).symm

theorem outcome_grepOptions_eq_ok_iff {o : GrepOptions} :
    (grepOptions args).outcome = .ok o ↔ GrepOptions.ofArguments args = .ok o := by
  unfold grepOptions
  split <;> simp_all [Run.report, Run.fail, pure, Run.done]

/-- Of the mistakes in the options, a count with too many digits is not reported as an error. -/
theorem outcome_grepOptions_eq_error_iff (hf : f.Escapes) :
    (grepOptions args).outcome = .error f ↔
      ∃ digits, GrepOptions.ofArguments args = .error (.countDigits digits) ∧
        f = .countDigits digits := by
  unfold grepOptions
  split
  · next o heq => simp [heq, pure, Run.done]
  · next e heq => simp [heq, hf.outcome_report_ne]
  · next digits heq => simp [heq, Run.fail, eq_comm]

theorem outcome_grepRegex_eq_ok_iff {o : GrepOptions} {r : Regex} :
    (grepRegex o).outcome = .ok r ↔ o.regex = .ok r := by
  unfold grepRegex
  split <;> simp_all [Run.report, Run.fail, pure, Run.done]

/-- A pattern that asks for too much is not reported as an error. -/
theorem outcome_grepRegex_eq_error_iff {o : GrepOptions} (hf : f.Escapes) :
    (grepRegex o).outcome = .error f ↔
      ∃ e, o.regex = .error (.excess e) ∧ f = .pattern e := by
  unfold grepRegex
  split
  · next r heq => simp [heq, pure, Run.done]
  · next e heq => simp [heq, Run.fail, eq_comm]
  · next e hno heq =>
    refine ⟨fun h => absurd h (hf.outcome_report_ne _), ?_⟩
    rintro ⟨e', he', -⟩
    rw [heq] at he'
    exact absurd (Except.error.inj he') (hno e')

/-- Selecting lines fails only where a match leaves a misplaced group. -/
theorem outcome_selectFrom_eq_error_iff {r : Regex} {o : GrepOptions} {text : Text} :
    (selectFrom r o text).outcome = .error f ↔
      ∃ e, r.select o.after text = .error e ∧ f = .pattern e := by
  rw [selectFrom]
  cases r.select o.after text with
  | ok selected => exact ⟨nofun, nofun⟩
  | error e => simp [Run.fail, eq_comm]

/-- What goes wrong in the files that are searched is never reported. -/
theorem FileFails.escapes_of_selectFrom {r : Regex} {o : GrepOptions} {path : Text}
    (h : FileFails w (selectFrom r o) path f) : f.Escapes := by
  cases h with
  | null => exact nofun
  | text _ huse =>
      obtain ⟨e, -, rfl⟩ := outcome_selectFrom_eq_error_iff.mp huse
      exact nofun

/-- `grep` fails in its options, in its pattern or in what it searches. -/
theorem outcome_runGrep_eq_error_iff :
    (runGrep w args input).outcome = .error f ↔
      (grepOptions args).outcome = .error f ∨
      ∃ o, GrepOptions.ofArguments args = .ok o ∧
        ((grepRegex o).outcome = .error f ∨
        ∃ r, o.regex = .ok r ∧
          (o.files = [] ∧ (selectFrom r o input).outcome = .error f ∨
            FirstFailure (FileFails w (selectFrom r o)) o.files f)) := by
  simp only [runGrep, Run.outcome_bind_eq_error_iff, outcome_grepOptions_eq_ok_iff,
    outcome_grepRegex_eq_ok_iff]
  refine or_congr Iff.rfl (exists_congr fun o => and_congr Iff.rfl (or_congr Iff.rfl
    (exists_congr fun r => and_congr Iff.rfl ?_)))
  rw [← outcome_collectFiles_eq_error_iff "grep"]
  cases o.files with
  | nil => simp [collectFiles, pure, Run.done]
  | cons path paths => simp

/-- A program fails without an error only if the user interrupts it. -/
theorem outcome_runExternal_eq_error_iff {program : Text} (hf : f.Escapes) :
    (runExternal w program args input).outcome = .error f ↔
      f = .interrupted ∧ (∀ t ∈ program :: args, holdsNull t = false) ∧
        w.program program args (Utf8.encode input) = .interrupted := by
  rw [runExternal, Run.outcome_bind_eq_error_iff, World.outcome_launch_eq_error_iff]
  constructor
  · rintro (hlaunch | ⟨launched, -, hafter⟩)
    · exact hlaunch
    · -- whatever the launch came to, a failure is reported
      cases launched with
      | error e => exact absurd (Except.error.inj hafter).symm (hf _)
      | ok r =>
          by_cases hstatus : r.status = 0
          · simp only [hstatus, if_true] at hafter
            cases hafter
          · simp only [hstatus, if_false] at hafter
            exact absurd (Except.error.inj hafter).symm (hf _)
  · exact Or.inl

/-- A failure that a command lets through is one of those that are listed. -/
theorem Command.breaks_of_outcome_run_eq_error {c : Command}
    (hrun : (c.run w input).outcome = .error f) (hf : f.Escapes) : c.Breaks w input f := by
  -- what a command reports is ruled out by `hf`
  cases c with
  | external program args =>
      obtain ⟨rfl, hnull, hinterrupted⟩ := (outcome_runExternal_eq_error_iff hf).mp hrun
      exact .interrupted hnull hinterrupted
  | builtin b args =>
      cases b with
      | echo => cases hrun
      | pwd => cases hrun
      | exit => cases hrun
      | cat =>
          have hfirst := outcome_runCat_eq_error_iff.mp hrun
          obtain ⟨path, -, hpath⟩ := hfirst.exists_mem
          obtain rfl := hpath.eq_nullInPath_of_pure
          exact .cat hfirst
      | wc =>
          have hfirst := outcome_runWc_eq_error_iff.mp hrun
          obtain ⟨path, -, hpath⟩ := hfirst.exists_mem
          obtain rfl := hpath.eq_nullInPath_of_escapes hf
          exact .wc hfirst
      | grep =>
          rcases outcome_runGrep_eq_error_iff.mp hrun with
            hoptions | ⟨o, ho, hregex | ⟨r, hr, ⟨hfiles, hselect⟩ | hfirst⟩⟩
          · obtain ⟨digits, hdigits, rfl⟩ := (outcome_grepOptions_eq_error_iff hf).mp hoptions
            exact .countDigits hdigits
          · obtain ⟨e, he, rfl⟩ := (outcome_grepRegex_eq_error_iff hf).mp hregex
            exact .pattern ho he
          · obtain ⟨e, he, rfl⟩ := outcome_selectFrom_eq_error_iff.mp hselect
            exact .grepInput ho hr hfiles he
          · exact .grepFiles ho hr hfirst

/-- A command does let the failures through that are listed. -/
theorem Command.Breaks.outcome_run_eq_error {c : Command} (hbreaks : c.Breaks w input f) :
    (c.run w input).outcome = .error f ∧ f.Escapes := by
  cases hbreaks with
  | interrupted hnull hinterrupted =>
      have hf : Failure.Escapes .interrupted := nofun
      exact ⟨(outcome_runExternal_eq_error_iff hf).mpr ⟨rfl, hnull, hinterrupted⟩, hf⟩
  | cat hfirst => exact ⟨outcome_runCat_eq_error_iff.mpr hfirst, nofun⟩
  | wc hfirst => exact ⟨outcome_runWc_eq_error_iff.mpr hfirst, nofun⟩
  | @countDigits _ digits hdigits =>
      have hf : Failure.Escapes (.countDigits digits) := nofun
      have hoptions := (outcome_grepOptions_eq_error_iff hf).mpr ⟨digits, hdigits, rfl⟩
      exact ⟨outcome_runGrep_eq_error_iff.mpr (Or.inl hoptions), hf⟩
  | @pattern _ o e ho he =>
      have hf : Failure.Escapes (.pattern e) := nofun
      have hregex := (outcome_grepRegex_eq_error_iff hf).mpr ⟨e, he, rfl⟩
      exact ⟨outcome_runGrep_eq_error_iff.mpr (Or.inr ⟨o, ho, Or.inl hregex⟩), hf⟩
  | grepInput ho hr hfiles he =>
      have hselect := outcome_selectFrom_eq_error_iff.mpr ⟨_, he, rfl⟩
      exact ⟨outcome_runGrep_eq_error_iff.mpr
        (Or.inr ⟨_, ho, Or.inr ⟨_, hr, Or.inl ⟨hfiles, hselect⟩⟩⟩), nofun⟩
  | grepFiles ho hr hfirst =>
      obtain ⟨path, -, hpath⟩ := hfirst.exists_mem
      exact ⟨outcome_runGrep_eq_error_iff.mpr
        (Or.inr ⟨_, ho, Or.inr ⟨_, hr, Or.inr hfirst⟩⟩), hpath.escapes_of_selectFrom⟩

/-- **The failures that a command lets through** are those that are listed and no others. -/
theorem Command.outcome_run_eq_error_iff {c : Command} :
    (c.run w input).outcome = .error f ∧ f.Escapes ↔ c.Breaks w input f :=
  ⟨fun h => breaks_of_outcome_run_eq_error h.1 h.2, Breaks.outcome_run_eq_error⟩

end Commands

/-! ## Lines -/

namespace Session

/-- **What a line lets through**: what is let through by a command of its pipeline that is reached
by the ones before it. -/
theorem outcome_runLine_eq_error_iff_breaks {vars : Variables} {line : Text} {f : Failure} :
    (runLine w vars line).outcome = .error f ↔
      ∃ p before c after reached, Statement.ofLine vars.lookup line = some (.pipeline p) ∧
        p.toList = before ++ c :: after ∧ (runCommands w [] before).outcome = .ok reached ∧
        c.Breaks w reached f := by
  rw [outcome_runLine_eq_error_iff]
  constructor
  · rintro ⟨hexecute, hf⟩
    obtain ⟨p, hp⟩ := exists_pipeline_of_outcome_ne (by rw [hexecute]; nofun)
    rw [outcome_execute_eq_error_iff_of_pipeline hp, Pipeline.run,
      outcome_runCommands_eq_error_iff] at hexecute
    obtain ⟨before, c, after, reached, hsplit, hbefore, hrun⟩ := hexecute
    exact ⟨p, before, c, after, reached, hp, hsplit, hbefore,
      Command.breaks_of_outcome_run_eq_error hrun hf⟩
  · rintro ⟨p, before, c, after, reached, hline, hsplit, hbefore, hbreaks⟩
    obtain ⟨hrun, hf⟩ := hbreaks.outcome_run_eq_error
    refine ⟨?_, hf⟩
    rw [outcome_execute_eq_error_iff_of_pipeline hline, Pipeline.run,
      outcome_runCommands_eq_error_iff]
    exact ⟨before, c, after, reached, hsplit, hbefore, hrun⟩

end Session

/-! ## Scripts -/

/-- A script ends with a report and the exit code one at the first statement that reports an error,
and it fails at the first one that fails otherwise. -/
theorem Script.outcome_run_of_error {vars : Variables} {path t line : Text} {n : Nat}
    {before rest : List (Nat × Text)} {f : Failure} (hpath : holdsNull path = false)
    (h : w.entry path = .content (Utf8.encode t)) (hsplit : lines t = before ++ (n, line) :: rest)
    (hgoes : (course w).GoesOn vars before)
    (hline : (Session.execute w ((course w).after vars before) line).outcome = .error f) :
    ∃ events, (run w vars path).run =
      ⟨events ++ (conclusion n (.error f)).1, (conclusion n (.error f)).2⟩ := by
  have hstops : (course w).Stops ((course w).after vars before) (n, line) := by
    intro hcontinue
    cases hline.symm.trans hcontinue
  rw [run_of_stops hpath h hsplit hgoes hstops, hline]
  exact ⟨.read path :: _, rfl⟩

/-- **When failures are reported.**  A command returns a text or reports an error unless it breaks,
and then its outcome is the failure that it lets through.  A line has a status or none unless its
pipeline reaches a command that breaks.  A script ends with the report of the first error and the
exit code one, unless what fails is let through, which then is the outcome of the script. -/
theorem reported_iff_not_breaks (w : World) (vars : Variables) :
    (∀ (input : Text) (c : Command),
      ((∃ output, (c.run w input).outcome = .ok output) ∨
        ∃ e, (c.run w input).outcome = .error (.shell e)) ↔ ∀ f, ¬ c.Breaks w input f) ∧
    (∀ (input : Text) (c : Command) (f : Failure),
      c.Breaks w input f ↔ (c.run w input).outcome = .error f ∧ f.Escapes) ∧
    (∀ line : Text, (∃ status, (Session.runLine w vars line).outcome = .ok status) ↔
      ∀ p before c after reached f, Statement.ofLine vars.lookup line = some (.pipeline p) →
        p.toList = before ++ c :: after → (runCommands w [] before).outcome = .ok reached →
        ¬ c.Breaks w reached f) ∧
    (∀ (path t line : Text) (n : Nat) (before rest : List (Nat × Text)) (f : Failure),
      holdsNull path = false → w.entry path = .content (Utf8.encode t) →
      Script.lines t = before ++ (n, line) :: rest → (Script.course w).GoesOn vars before →
      (Session.execute w ((Script.course w).after vars before) line).outcome = .error f →
      ∃ events, (Script.run w vars path).run =
        ⟨events ++ (Script.conclusion n (.error f)).1, (Script.conclusion n (.error f)).2⟩) := by
  refine ⟨fun input c => ⟨?_, fun hno => ?_⟩,
    fun input c f => Command.outcome_run_eq_error_iff.symm, fun line => ⟨?_, fun hno => ?_⟩,
    fun path t line n before rest f => Script.outcome_run_of_error⟩
  · rintro (⟨output, hok⟩ | ⟨e, hshell⟩) f hbreaks
    · rw [(Command.outcome_run_eq_error_iff.mpr hbreaks).1] at hok
      cases hok
    · obtain ⟨hrun, hf⟩ := Command.outcome_run_eq_error_iff.mpr hbreaks
      exact hf e (Except.error.inj (hrun.symm.trans hshell))
  · cases h : (c.run w input).outcome with
    | ok output => exact Or.inl ⟨output, rfl⟩
    | error f =>
        rcases f.eq_shell_or_escapes with ⟨e, rfl⟩ | hf
        · exact Or.inr ⟨e, rfl⟩
        · exact absurd (Command.outcome_run_eq_error_iff.mp ⟨h, hf⟩) (hno f)
  · rintro ⟨status, hok⟩ p before c after reached f hline hsplit hbefore hbreaks
    rw [Session.outcome_runLine_eq_error_iff_breaks.mpr
      ⟨p, before, c, after, reached, hline, hsplit, hbefore, hbreaks⟩] at hok
    cases hok
  · cases h : (Session.runLine w vars line).outcome with
    | ok status => exact ⟨status, rfl⟩
    | error f =>
        obtain ⟨p, before, c, after, reached, hline, hsplit, hbefore, hbreaks⟩ :=
          Session.outcome_runLine_eq_error_iff_breaks.mp h
        exact absurd hbreaks (hno p before c after reached f hline hsplit hbefore)

/-- Not every failure of a command is reported or an interrupt: counting a path with a null
character is neither. -/
theorem not_reported_or_interrupted_wc_null :
    ¬ ∀ (w : World) (input name : Text) (args : List Text),
      (∃ output, ((Command.ofWords name args).run w input).outcome = .ok output) ∨
      (∃ e, ((Command.ofWords name args).run w input).outcome = .error (.shell e)) ∨
      ((Command.ofWords name args).run w input).outcome = .error .interrupted := by
  intro h
  let w : World := ⟨fun _ => none, fun _ _ _ => .interrupted, ['/']⟩
  have hrun : ((Command.ofWords ['w', 'c'] [['a', '\x00', 'b']]).run w []).outcome =
      .error .nullInPath := by
    have hwc : Command.ofWords ['w', 'c'] [['a', '\x00', 'b']] =
        .builtin .wc [['a', '\x00', 'b']] := by
      decide
    rw [hwc]
    exact outcome_runWc_eq_error_iff.mpr (.here (.null (by decide)))
  rcases h w [] ['w', 'c'] [['a', '\x00', 'b']] with ⟨output, hok⟩ | ⟨e, hshell⟩ | hinterrupted
  · rw [hrun] at hok
    cases hok
  · rw [hrun] at hshell
    cases hshell
  · rw [hrun] at hinterrupted
    cases hinterrupted

end TextShell
