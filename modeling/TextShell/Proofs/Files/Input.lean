import TextShell.Proofs.Pipeline.Algebra

/-!
# A file and the same text on the input

`wc` and `grep` have two ways to come by a text, from a file and from the command before them, and
what they make of it is the same.  `wc` puts the path in front of the counts of a file.  `grep` takes
each of its files as an input of its own: the lines that are still to be shown after a match are
forgotten where a file ends.

So a file may be handed over by `cat` as well.  The files that are read are the same, unless the
pattern is not accepted: then `grep` does not read its files, while `cat` has read them already.

The outcome for several files is the first failure or the texts put together.  This is `List.mapM`
over the outcomes for the single files (`outcome_collectFiles_eq`), by induction on the files.
-/

namespace TextShell

variable {w : World}

/-! ## Several files -/

/-- **Files that are put together** fail with the first one that cannot be used. -/
theorem outcome_collectFiles_eq {files : List (Text × Text)}
    (h : ∀ file ∈ files, w.Reads file.1 file.2) (command : Text) (use : Text → Run Text) :
    (collectFiles w command use (files.map Prod.fst)).outcome =
      (files.mapM fun file => (use file.2).outcome).map List.flatten := by
  induction files with
  | nil => rfl
  | cons file files ih =>
      have hfiles := ih fun f hf => h f (List.mem_cons_of_mem _ hf)
      rw [List.map_cons, collectFiles, (h file List.mem_cons_self).readText_eq, List.mapM_cons]
      simp only [bind, Run.andThen, pure, Run.done]
      cases (use file.2).outcome with
      | error f => rfl
      | ok out =>
          -- the first file is used, and the others decide
          simp only [hfiles]
          cases files.mapM fun file => (use file.2).outcome <;> rfl

/-- One file that can be opened is used as it is. -/
theorem collectFiles_singleton {path text : Text} (h : w.Reads path text) (command : Text)
    (use : Text → Run Text) :
    collectFiles w command use [path] = ⟨.read path :: (use text).events, (use text).outcome⟩ := by
  rw [collectFiles, h.readText_eq]
  simp only [bind, Run.andThen, collectFiles, pure, Run.done]
  cases (use text).outcome <;> simp

/-! ## `grep` -/

section Grep

variable {args : List Text} {o : GrepOptions}

/-- The pattern is checked without any effect. -/
theorem grepRegex_eq (o : GrepOptions) :
    (∃ r, o.regex = .ok r ∧ grepRegex o = pure r) ∨
      ∃ e f, o.regex = .error e ∧ grepRegex o = Run.fail f := by
  rw [grepRegex]
  cases o.regex with
  | ok r => exact .inl ⟨r, rfl, rfl⟩
  | error e => cases e <;> exact .inr ⟨_, _, rfl, rfl⟩

/-- Selecting lines has no effect. -/
theorem events_selectFrom (r : Regex) (o : GrepOptions) (text : Text) :
    (selectFrom r o text).events = [] := by
  unfold selectFrom
  split <;> rfl

/-- Without files lines of the input are selected. -/
theorem runGrep_of_files_eq_nil (h : GrepOptions.ofArguments args = .ok { o with files := [] })
    (input : Text) :
    runGrep w args input = grepRegex o >>= fun r => selectFrom r o input := by
  rw [runGrep, grepOptions_of_ok h, Run.pure_bind]
  rfl

/-- With files the input is not looked at. -/
theorem runGrep_of_files_ne_nil (h : GrepOptions.ofArguments args = .ok o) (hne : o.files ≠ [])
    (input : Text) :
    runGrep w args input =
      grepRegex o >>= fun r => collectFiles w "grep" (selectFrom r o) o.files := by
  have hempty : o.files.isEmpty = false := by simpa using hne
  rw [runGrep, grepOptions_of_ok h, Run.pure_bind, hempty]
  rfl

section OneFile

variable {args' : List Text} {path text : Text}

/-- With a pattern that is accepted the file is read, and what it holds is searched. -/
theorem runGrep_file_eq_of_regex_ok {r : Regex} (h : GrepOptions.ofArguments args = .ok o)
    (hfiles : o.files = [path]) (h' : GrepOptions.ofArguments args' = .ok { o with files := [] })
    (hreads : w.Reads path text) (hr : o.regex = .ok r) (input : Text) :
    runGrep w args input = ⟨[.read path], (runGrep w args' text).outcome⟩ ∧
      (runGrep w args' text).events = [] := by
  have hregex : grepRegex o = pure r := by rw [grepRegex, hr]
  have htext : runGrep w args' text = selectFrom r o text := by
    rw [runGrep_of_files_eq_nil h', hregex, Run.pure_bind]
  refine ⟨?_, htext ▸ events_selectFrom r o text⟩
  rw [runGrep_of_files_ne_nil h (by simp [hfiles]), hregex, Run.pure_bind, hfiles,
    collectFiles_singleton hreads, events_selectFrom, htext]

/-- With a pattern that is not accepted nothing is read. -/
theorem runGrep_file_eq_of_regex_error {e : PatternError}
    (h : GrepOptions.ofArguments args = .ok o) (hfiles : o.files = [path])
    (h' : GrepOptions.ofArguments args' = .ok { o with files := [] }) (he : o.regex = .error e)
    (input : Text) :
    ∃ f, runGrep w args input = .fail f ∧ runGrep w args' text = .fail f := by
  rcases grepRegex_eq o with ⟨r, hr, -⟩ | ⟨-, f, -, hf⟩
  · rw [he] at hr
    cases hr
  · refine ⟨f, ?_, ?_⟩
    · rw [runGrep_of_files_ne_nil h (by simp [hfiles]), hf, Run.fail_bind]
    · rw [runGrep_of_files_eq_nil h', hf, Run.fail_bind]

end OneFile

/-- **`grep` over files** ends as it does on what they hold, one after the other. -/
theorem outcome_runGrep_eq_mapM {args' : List Text} {files : List (Text × Text)}
    (h : GrepOptions.ofArguments args = .ok o) (hfiles : o.files = files.map Prod.fst)
    (hne : files ≠ []) (h' : GrepOptions.ofArguments args' = .ok { o with files := [] })
    (hreads : ∀ file ∈ files, w.Reads file.1 file.2) (input : Text) :
    (runGrep w args input).outcome =
      (files.mapM fun file => (runGrep w args' file.2).outcome).map List.flatten := by
  have hpaths : o.files ≠ [] := by simpa [hfiles] using hne
  rw [runGrep_of_files_ne_nil h hpaths, hfiles]
  simp only [runGrep_of_files_eq_nil h']
  rcases grepRegex_eq o with ⟨r, -, hr⟩ | ⟨e, f, -, hf⟩
  · simp only [hr, Run.pure_bind]
    exact outcome_collectFiles_eq hreads "grep" (selectFrom r o)
  · -- the first of the files meets the failure of the pattern
    obtain ⟨file, files, rfl⟩ := List.exists_cons_of_ne_nil hne
    rw [List.mapM_cons, hf]
    rfl

end Grep

/-! ## Files that are handed over -/

/-- The log apart, a pipeline does what its first command does, and then the rest. -/
theorem unlogged_runCommands_cons (input : Text) (c : Command) (cs : List Command) :
    (runCommands w input (c :: cs)).unlogged =
      (c.run w input).unlogged >>= fun t => (runCommands w t cs).unlogged := by
  rw [runCommands, Run.unlogged_log_bind, Run.unlogged_bind]

/-- Files that are put together as they are. -/
theorem collectFiles_of_reads {files : List (Text × Text)}
    (h : ∀ file ∈ files, w.Reads file.1 file.2) (command : Text) :
    collectFiles w command pure (files.map Prod.fst) =
      ⟨files.map fun file => .read file.1, .ok (files.map Prod.snd).flatten⟩ := by
  induction files with
  | nil => rfl
  | cons file files ih =>
      have hfile := h file List.mem_cons_self
      have hfiles := ih fun f hf => h f (List.mem_cons_of_mem _ hf)
      rw [List.map_cons, collectFiles_cons_of_reads hfile rfl, hfile.visit_eq, hfiles]
      rfl

/-- A command that reads what `cat` makes of files reads what they hold. -/
theorem unlogged_run_cat_pipe {files : List (Text × Text)} (hne : files ≠ [])
    (h : ∀ file ∈ files, w.Reads file.1 file.2) (c : Command) :
    (Pipeline.run w ⟨.builtin .cat (files.map Prod.fst), [c]⟩).unlogged =
      ⟨files.map (fun file => .read file.1) ++
          (c.run w (files.map Prod.snd).flatten).unlogged.events,
        (c.run w (files.map Prod.snd).flatten).outcome⟩ := by
  have hcat : ((Command.builtin .cat (files.map Prod.fst)).run w []).unlogged =
      ⟨files.map fun file => .read file.1, .ok (files.map Prod.snd).flatten⟩ := by
    have hempty : (files.map Prod.fst).isEmpty = false := by simpa using hne
    have hreads : ∀ e ∈ files.map fun file => Event.read file.1, e.logged?.isNone = true :=
      List.forall_mem_map.mpr fun _ _ => rfl
    have hrun := collectFiles_of_reads h "cat"
    rw [Command.run, runCat, hempty, if_neg Bool.false_ne_true, hrun, Run.unlogged,
      List.filter_eq_self.mpr hreads]
  have hlast (input : Text) : (runCommands w input [c]).unlogged = (c.run w input).unlogged := by
    rw [unlogged_runCommands_cons]
    exact Run.bind_pure _
  rw [Pipeline.run, Pipeline.toList, unlogged_runCommands_cons, hcat]
  exact (Run.bind_of_ok rfl).trans (by rw [hlast]; rfl)

/-- The same for one file. -/
theorem unlogged_run_cat_file_pipe {path text : Text} (h : w.Reads path text) (c : Command) :
    (Pipeline.run w ⟨.builtin .cat [path], [c]⟩).unlogged =
      ⟨.read path :: (c.run w text).unlogged.events, (c.run w text).outcome⟩ := by
  have hfile : ∀ file ∈ [(path, text)], w.Reads file.1 file.2 := by simpa using h
  simpa using unlogged_run_cat_pipe (List.cons_ne_nil _ _) hfile c

/-- **A file and the same text on the input.**  `wc` writes of a file what it writes of the text on
its input, with the path in front.  `grep` ends on files as it does on what they hold, one after the
other and each of them on its own: with the texts that it selects, put together, or with the first
failure.

So `cat` may hand the file over.  The same files are read then and nothing else is done, if the
pattern is accepted; if not, `grep` fails before it reads a file, and `cat` has read it already. -/
theorem Command.run_file_eq_run_input (w : World) (input : Text) :
    (∀ path text, w.Reads path text → ∃ counts,
      (Command.builtin .wc []).run w text = ⟨[], .ok counts⟩ ∧
      (Command.builtin .wc [path]).run w input = ⟨[.read path], .ok (path ++ ": " ++ counts)⟩ ∧
      (Pipeline.run w ⟨.builtin .cat [path], [.builtin .wc []]⟩).unlogged =
        ⟨[.read path], .ok counts⟩) ∧
    (∀ args args' o path text, GrepOptions.ofArguments args = .ok o → o.files = [path] →
      GrepOptions.ofArguments args' = .ok { o with files := [] } → w.Reads path text →
      let file := (Command.builtin .grep args).run w input
      let piped := Pipeline.run w ⟨.builtin .cat [path], [.builtin .grep args']⟩
      file.outcome = ((Command.builtin .grep args').run w text).outcome ∧
      piped.outcome = file.outcome ∧
      ((∃ r, o.regex = .ok r) → file.events = [.read path] ∧ piped.unlogged = file) ∧
      ((∃ e, o.regex = .error e) → file.events = [] ∧ piped.unlogged.events = [.read path])) ∧
    (∀ args args' o (files : List (Text × Text)), GrepOptions.ofArguments args = .ok o →
      o.files = files.map Prod.fst → files ≠ [] →
      GrepOptions.ofArguments args' = .ok { o with files := [] } →
      (∀ file ∈ files, w.Reads file.1 file.2) →
      ((Command.builtin .grep args).run w input).outcome =
        (files.mapM fun file => ((Command.builtin .grep args').run w file.2).outcome).map
          List.flatten) := by
  refine ⟨fun path text h => ⟨(Counts.ofText text).shown, rfl, ?_, ?_⟩,
    fun args args' o path text hargs hfiles hargs' h => ?_,
    fun args args' o files hargs hfiles hne hargs' hreads =>
      outcome_runGrep_eq_mapM hargs hfiles hne hargs' hreads input⟩
  · have hfile : ∀ file ∈ [(path, text)], w.Reads file.1 file.2 := by simpa using h
    exact runWc_eq_ok (List.cons_ne_nil _ _) hfile input
  · exact unlogged_run_cat_file_pipe h (.builtin .wc [])
  · intro file piped
    have hpiped : piped.unlogged =
        ⟨.read path :: (runGrep w args' text).unlogged.events, (runGrep w args' text).outcome⟩ :=
      unlogged_run_cat_file_pipe h (.builtin .grep args')
    have hpipedOutcome : piped.outcome = piped.unlogged.outcome := rfl
    show file.outcome = (runGrep w args' text).outcome ∧ _
    rw [hpipedOutcome, hpiped]
    cases hregex : o.regex with
    | ok r =>
        obtain ⟨hfile, hevents⟩ := runGrep_file_eq_of_regex_ok hargs hfiles hargs' h hregex input
        rw [show file = ⟨[.read path], (runGrep w args' text).outcome⟩ from hfile]
        refine ⟨rfl, rfl, fun _ => ⟨rfl, ?_⟩, ?_⟩
        · rw [Run.unlogged, hevents]
          rfl
        · rintro ⟨e, ⟨⟩⟩
    | error e =>
        obtain ⟨f, hfile, hinput⟩ := runGrep_file_eq_of_regex_error hargs hfiles hargs' hregex input
        rw [show file = .fail f from hfile, hinput]
        refine ⟨rfl, rfl, ?_, fun _ => ⟨rfl, rfl⟩⟩
        rintro ⟨r, ⟨⟩⟩

/-- A line that is to be shown after a match at the end of a file is not the first line of the next
file. -/
theorem Command.run_file_eq_run_input_match_at_end :
    let w : World := ⟨fun path =>
        if path = ['f'] then some (.content [97])
        else if path = ['g'] then some (.content [98, 10]) else none,
      fun _ _ _ => .interrupted, ['/']⟩
    let one : GrepOptions := { pattern := ['a'], files := [['f']], after := 1 }
    let two : GrepOptions := { pattern := ['a'], files := [['f'], ['g']], after := 1 }
    let args : List Text := [['-', 'A', '1'], ['a']]
    let files : List (Text × Text) := [(['f'], ['a']), (['g'], ['b', '\n'])]
    (GrepOptions.ofArguments (args ++ [['f']]) = .ok one ∧
      GrepOptions.ofArguments (args ++ [['f'], ['g']]) = .ok two ∧
      GrepOptions.ofArguments args = .ok { one with files := [] } ∧
      two.files = files.map Prod.fst ∧ files ≠ [] ∧ ∀ file ∈ files, w.Reads file.1 file.2) ∧
    (∃ counts, (Command.builtin .wc [['f']]).run w [] =
      ⟨[.read ['f']], .ok (['f'] ++ ": " ++ counts)⟩) ∧
    (Pipeline.run w ⟨.builtin .cat [['f']], [.builtin .grep args]⟩).outcome =
      ((Command.builtin .grep (args ++ [['f']])).run w []).outcome ∧
    ((Command.builtin .grep (args ++ [['f'], ['g']])).run w []).outcome = .ok ['a', '\n'] := by
  intro w one two args files
  have hone : GrepOptions.ofArguments (args ++ [['f']]) = .ok one := rfl
  have htwo : GrepOptions.ofArguments (args ++ [['f'], ['g']]) = .ok two := rfl
  have hargs : GrepOptions.ofArguments args = .ok { one with files := [] } := rfl
  have hf : w.Reads ['f'] ['a'] := ⟨rfl, [97], rfl, by decide +kernel⟩
  have hg : w.Reads ['g'] ['b', '\n'] := ⟨rfl, [98, 10], rfl, by decide +kernel⟩
  have hreads : ∀ file ∈ files, w.Reads file.1 file.2 :=
    List.forall_mem_cons.mpr ⟨hf, List.forall_mem_singleton.mpr hg⟩
  obtain ⟨hwc, hgrep, hgrepAll⟩ := Command.run_file_eq_run_input w []
  obtain ⟨counts, -, hcounts, -⟩ := hwc ['f'] ['a'] hf
  obtain ⟨-, hpiped, -⟩ := hgrep _ args one ['f'] ['a'] hone rfl hargs hf
  refine ⟨⟨hone, htwo, hargs, rfl, List.cons_ne_nil _ _, hreads⟩, ⟨counts, hcounts⟩, hpiped, ?_⟩
  rw [hgrepAll _ args two files htwo rfl (List.cons_ne_nil _ _) hargs hreads]
  rfl

end TextShell
