import TextShell.CommandLine.Report
import TextShell.Proofs.Dialogue
import TextShell.Proofs.Effects
import TextShell.Proofs.Script

/-!
# Three ways to enter a line

A line reaches the session as an argument of the program, as the only line of a script or as the
only thing that is typed.  On its way it is decoded, cut off, trimmed or compared with `help`, and
what comes of it is told in three different ways.  For a line that none of these steps takes for
something else (`PlainLine`) the statement is executed once and in the same state, so that all three
calls have the effects of that one execution (`SameStatement`), between others that belong to the
way of entering: opening the script, the greeting and the farewell of the dialogue.

Each way is brought into a form in which the execution stands by itself (`Session.runLine_eq`,
`Script.run_of_holdsLine`, `Interactive.exists_run_line_eq`).  The calls of the program only add
the settings, which are the same for all of them.

## Main Definitions

* `PlainLine` — a line that every way of entering hands on as it is
* `World.HoldsLine` — a script with a single line
* `NamesScript` — arguments that ask for a script
* `Environment.NullFree` — an environment as the system hands it over
* `SameStatement` — reports of calls that execute the same statement
-/

namespace TextShell

/-- **A line that every way of entering hands on as it is.** -/
structure PlainLine (l : Text) : Prop where
  /-- It has no outer blanks, which a script drops. -/
  trim_eq : l.trim = l
  /-- It is not blank. -/
  ne_nil : l ≠ []
  /-- It is a single line. -/
  unbroken : Unbroken l
  /-- It is no comment. -/
  not_comment : l.head? ≠ some '#'
  /-- It does not ask for the help. -/
  not_help : l ≠ "help".toList

/-- The script under a path holds a single line, with a line end or without. -/
structure World.HoldsLine (w : World) (path l : Text) : Prop where
  /-- The path can be looked up. -/
  not_null : holdsNull path = false
  /-- The bytes are those of the line. -/
  entry : ∃ ending, (ending = [] ∨ EndsLine ending []) ∧
    w.entry path = .content (Utf8.encode (l ++ ending))

/-- Arguments that ask for the script under a path. -/
inductive NamesScript (path : Text) : List Text → Prop
  /-- A path that does not look like an option. -/
  | plain : path.head? ≠ some '-' → NamesScript path [path]
  /-- Any path. -/
  | literal : NamesScript path ["--", path]

/-- No value of an environment holds a null character. -/
def Environment.NullFree (env : Environment) : Prop :=
  ∀ name value, env name = some value → '\x00' ∉ value

/-- **Reports of calls that execute the same statement**, whose turn is `x`: a call with a line, a
call with the script under a path and a dialogue that begins with some greeting. -/
structure SameStatement (x : Turn Status) (path : Text) (level : Nat) (greeting : List Event)
    (line script dialogue : Report) : Prop where
  /-- If the statement succeeds, so do the calls. -/
  of_ok : ∀ status, x.outcome = .ok status →
    line = { events := x.events, exitCode := 0, severity := level } ∧
    script = { events := .read path :: x.events, exitCode := 0, severity := level } ∧
    dialogue.events = greeting ++ x.events ++ [.printed "Goodbye!\n"]
  /-- The error of a command is told by all calls, and by the script with the number of the line. -/
  of_error : ∀ e, x.outcome = .error (.shell e) →
    let told : List Event := [.logged (.failed e), .printed (e.message ++ ['\n'])]
    line = { events := x.events ++ told, exitCode := 1, severity := level } ∧
    script =
      { events := .read path :: (x.events ++
          [.printed ("Error at line 1: " ++ (e.message ++ ['\n']))])
        exitCode := 1
        severity := level } ∧
    dialogue.events = greeting ++ (x.events ++ told) ++ [.printed "Goodbye!\n"]
  /-- Another failure is that of the call, unless it is a dialogue. -/
  of_escape : ∀ f, x.outcome = .error f → f.Escapes →
    line = .ofFailure level x.events f ∧
    script = .ofFailure level (.read path :: x.events) f ∧
    dialogue.events =
      greeting ++ (x.events ++ (Interactive.complain f).events) ++ [.printed "Goodbye!\n"]

/-- **Reports of calls with the effects of the same statement** on the world: the files that are
opened, but for the script itself, the warnings and the launches, all of them in the same order. -/
structure SameEffects (x : Turn Status) (path : Text) (line script dialogue : Report) : Prop where
  reads : line.events.filterMap Event.read? = x.events.filterMap Event.read? ∧
    script.events.filterMap Event.read? = path :: x.events.filterMap Event.read? ∧
    dialogue.events.filterMap Event.read? = x.events.filterMap Event.read?
  warnings : line.events.filterMap Event.warned? = x.events.filterMap Event.warned? ∧
    script.events.filterMap Event.warned? = x.events.filterMap Event.warned? ∧
    dialogue.events.filterMap Event.warned? = x.events.filterMap Event.warned?
  launches : line.events.filterMap Event.launched? = x.events.filterMap Event.launched? ∧
    script.events.filterMap Event.launched? = x.events.filterMap Event.launched? ∧
    dialogue.events.filterMap Event.launched? = x.events.filterMap Event.launched?

/-- The report of a run with some least severity. -/
def Report.ofRun (level : Nat) (r : Run (Nat × List Text)) : Report :=
  match r.outcome with
  | .error f => .ofFailure level r.events f
  | .ok (exitCode, prompts) => { events := r.events, exitCode, severity := level, prompts }

theorem PlainLine.trim_ne_help {l : Text} (hl : PlainLine l) : l.trim ≠ "help".toList := by
  rw [hl.trim_eq]
  exact hl.not_help

/-! ## Settings -/

section Settings

variable {env : Environment}

/-- No home directory holds a null character. -/
theorem Environment.NullFree.homeOf? (henv : env.NullFree) {name home : Text}
    (h : homeOf? env name = some home) : '\x00' ∉ home := by
  unfold TextShell.homeOf? at h
  split at h
  · exact henv _ home h
  · simp only [accountHomes, List.lookup_cons, List.lookup_nil] at h
    split at h
    · obtain rfl := Option.some.inj h
      decide
    · cases h

/-- A path without null characters has none with a home directory in it either. -/
theorem Environment.NullFree.expandHome (henv : env.NullFree) {path expanded : Text}
    (hpath : '\x00' ∉ path) (h : expandHome env path = .ok expanded) : '\x00' ∉ expanded := by
  unfold TextShell.expandHome at h
  split at h
  · next cs =>
    dsimp only at h
    split at h
    · cases h
    · split at h
      · obtain rfl := Except.ok.inj h
        exact hpath
      · next home hhome =>
        have hrest : '\x00' ∉ dropEndSlashes home ++ cs.dropWhile (· != '/') := by
          intro hmem
          rcases List.mem_append.mp hmem with hmem | hmem
          · have hreverse := (List.dropWhile_suffix _).subset (List.mem_reverse.mp hmem)
            exact henv.homeOf? hhome (List.mem_reverse.mp hreverse)
          · exact hpath (List.mem_cons_of_mem _ ((List.dropWhile_suffix _).subset hmem))
        obtain rfl := Except.ok.inj h
        split
        · decide
        · exact hrest
  · obtain rfl := Except.ok.inj h
    exact hpath

/-- What follows in the settings succeeds if both succeed. -/
theorem bind_eq_ok {α β : Type} {m : Except Failure α} {f : α → Except Failure β} {b : β}
    (h : (m >>= f) = .ok b) : ∃ a, m = .ok a ∧ f a = .ok b := by
  cases m with
  | error e => cases h
  | ok a => exact ⟨a, rfl, h⟩

/-- The path of the history file holds no null character if the environment does not. -/
theorem Environment.NullFree.holdsNull_historyFile (henv : env.NullFree) {s : Settings}
    {level : Nat} (h : Invocation.prepare env {} = .ok (s, level)) :
    holdsNull s.historyFile = false := by
  have hvalue : '\x00' ∉ (env "PIPESH_HISTFILE").getD "~/.pipesh_history" := by
    cases hset : env "PIPESH_HISTFILE" with
    | none => decide
    | some path => exact henv _ path hset
  -- the options are not given, so the settings are those of the environment
  obtain ⟨given, hgiven, hlevel⟩ := bind_eq_ok h
  obtain ⟨base, hbase, hgiven⟩ := bind_eq_ok hgiven
  obtain ⟨path, hpath, hbase⟩ := bind_eq_ok hbase
  obtain ⟨n, -, hlevel⟩ := bind_eq_ok hlevel
  obtain ⟨rfl, -⟩ := Prod.mk.inj (Except.ok.inj hlevel)
  obtain rfl := Except.ok.inj hgiven
  obtain rfl := Except.ok.inj hbase
  have hfree : '\x00' ∉ path := henv.expandHome hvalue hpath
  simpa [holdsNull] using hfree

end Settings

/-! ## Scripts -/

namespace Script

variable {w : World} {vars : Variables} {path l : Text}

/-- A line with an end or without is the only line. -/
theorem scriptLines_of_plainLine {ending : Text} (hl : PlainLine l)
    (hend : ending = [] ∨ EndsLine ending []) : (l ++ ending).scriptLines = [l] := by
  rcases hend with rfl | hend
  · rw [List.append_nil, Text.scriptLines_of_unbroken hl.ne_nil hl.unbroken]
  · have happend := Text.scriptLines_append hl.unbroken hend
    rwa [List.append_nil] at happend

theorem lines_of_plainLine {ending : Text} (hl : PlainLine l)
    (hend : ending = [] ∨ EndsLine ending []) : lines (l ++ ending) = [(1, l)] := by
  have hstatement : isStatement l = true := isStatement_iff.mpr ⟨hl.ne_nil, hl.not_comment⟩
  simp [lines, scriptLines_of_plainLine hl hend, hl.trim_eq, hstatement]

/-- A single statement is executed, whether it stops the script or not. -/
theorem runLines_singleton (w : World) (vars : Variables) (n : Nat) (line : Text) :
    runLines w vars [(n, line)] =
      ⟨⟨(Session.execute w vars line).events ++
          (conclusion n (Session.execute w vars line).outcome).1,
        (conclusion n (Session.execute w vars line).outcome).2⟩,
        (Session.execute w vars line).vars⟩ := by
  by_cases h : (Session.execute w vars line).outcome = .ok .continue
  · have hconclusion : conclusion n (Session.execute w vars line).outcome = ([], .ok 0) := by
      simp only [h, conclusion]
    -- no statement is left
    rw [runLines_cons_of_continue (l := (n, line)) h, hconclusion]
    rfl
  · have hvars := Session.vars_execute_of_outcome_ne h
    rw [runLines_cons_of_stops h, hvars]

/-- **A script that holds a single line** executes it. -/
theorem run_of_holdsLine (hl : PlainLine l) (h : w.HoldsLine path l) :
    run w vars path =
      ⟨⟨.read path :: ((Session.execute w vars l).events ++
          (conclusion 1 (Session.execute w vars l).outcome).1),
        (conclusion 1 (Session.execute w vars l).outcome).2⟩,
        (Session.execute w vars l).vars⟩ := by
  obtain ⟨ending, hend, hentry⟩ := h.entry
  rw [run_of_load_ok (load_of_encode h.not_null hentry), lines_of_plainLine hl hend,
    runLines_singleton]
  simp only [Turn.events, Turn.outcome, List.singleton_append]

end Script

/-! ## Dialogues -/

namespace Interactive

variable {w : World} {vars : Variables} {s : Settings} {l : Text}

/-- The loop answers the only line that is typed. -/
theorem exists_loop_line_eq (w : World) (vars : Variables) (l : Text) :
    ∃ prompts, loop w vars [.line l] =
      ⟨(answer w vars l).events, (answer w vars l).vars, prompts, []⟩ := by
  rw [loop]
  split
  · exact ⟨1, rfl⟩
  · exact ⟨2, by simp [loop]⟩

/-- **A dialogue with a single line** runs it between the start and the farewell. -/
theorem exists_run_line_eq (hpath : holdsNull s.historyFile = false)
    (hl : l.trim ≠ "help".toList) :
    ∃ farewell, run w s [.line l] =
      ⟨⟨(start w s).events ++
          ((Session.runLine w .empty l).events ++
            complaint (Session.runLine w .empty l).outcome) ++ [.printed "Goodbye!\n"],
        .ok farewell⟩, (Session.execute w .empty l).vars⟩ := by
  obtain ⟨history, hstart⟩ := exists_outcome_start w hpath
  obtain ⟨prompts, hloop⟩ := exists_loop_line_eq w .empty l
  refine ⟨⟨history, List.replicate prompts s.prompt, []⟩, ?_⟩
  rw [run_of_start hstart, hloop, answer_of_ne_help hl, Session.vars_runLine]

/-- At the start there is nothing but text for the user. -/
theorem emits_start (w : World) (s : Settings) :
    (start w s).Emits fun e => ∃ t, e = .printed t := by
  have hprint : ∀ t, (printLine t).Emits fun e => ∃ t, e = .printed t :=
    fun t => Run.emits_emit ⟨_, rfl⟩
  have hgreet : greet.Emits fun e => ∃ t, e = .printed t := (hprint _).bind fun _ => hprint _
  have hfallBack : (chooseHistory.fallBack s.historyFile).Emits fun e => ∃ t, e = .printed t :=
    (hprint _).bind fun _ => Run.emits_pure _
  refine hgreet.bind fun _ => ?_
  rw [chooseHistory]
  split
  · exact hfallBack
  · split
    · exact Run.emits_fail _
    · split
      · exact hfallBack
      · exact Run.emits_pure _

end Interactive

/-! ## Calls of the program -/

theorem Request.ofArguments_line (l : Text) :
    ofArguments ["-c", l] = .ok (.start ⟨some l, none, {}⟩) := rfl

theorem Request.ofArguments_nil : ofArguments [] = .ok (.start ⟨none, none, {}⟩) := rfl

/-- Arguments that name a script ask for it and for nothing else. -/
theorem NamesScript.ofArguments {path : Text} {args : List Text} (h : NamesScript path args) :
    Request.ofArguments args = .ok (.start ⟨none, some path, {}⟩) := by
  cases h with
  | literal => rfl
  | plain hhead =>
      have hitem : ProgramItem.ofArgument path = .positional path := by
        cases path with
        | nil => rfl
        | cons c cs =>
            have hc : c ≠ '-' := fun h => hhead (by rw [h]; rfl)
            unfold ProgramItem.ofArgument
            split <;> simp_all
      have hgiven : Given.ofArguments [path] = .ok { positionals := [path] } := by
        rw [Given.ofArguments, hitem]
        rfl
      rw [Request.ofArguments, hgiven]
      rfl

section Calls

variable {w : World} {env : Environment} {typed : List Typed} {args : List Text} {i : Invocation}
  {s : Settings} {level : Nat}

/-- Settings that are refused end the call before anything is run. -/
theorem report_of_prepare_error {f : Failure} (hargs : Request.ofArguments args = .ok (.start i))
    (hsettings : Invocation.prepare env i.settings = .error f) :
    report w env typed args = .ofFailure warningSeverity [] f := by
  rw [report, hargs]
  show i.report w env typed = _
  rw [Invocation.report, hsettings]

/-- Otherwise the call reports what comes of the run. -/
theorem report_of_prepare_ok (w : World) (typed : List Typed)
    (hargs : Request.ofArguments args = .ok (.start i))
    (hsettings : Invocation.prepare env i.settings = .ok (s, level)) :
    report w env typed args = .ofRun level (i.run w s typed) := by
  rw [report, hargs]
  show i.report w env typed = _
  rw [Invocation.report, hsettings]
  rfl

namespace Invocation

/-- A line is run, and the exit code tells whether it has a status. -/
theorem run_line (w : World) (s : Settings) (typed : List Typed) (l : Text)
    (o : SettingsOptions) :
    run w s typed ⟨some l, none, o⟩ =
      ⟨(Session.execute w .empty l).events ++
          (Session.conclusion (Session.execute w .empty l).outcome).1,
        (Session.conclusion (Session.execute w .empty l).outcome).2.map fun status =>
          (lineCode status, [])⟩ := by
  show (do return (lineCode (← (Session.runLine w .empty l).run), []) : Run _) = _
  rw [bind_pure_comp, Run.map_eq, Session.runLine_eq]

/-- A script that holds a single line executes it. -/
theorem run_script (s : Settings) (typed : List Typed) {path l : Text} (o : SettingsOptions)
    (hl : PlainLine l) (h : w.HoldsLine path l) :
    run w s typed ⟨none, some path, o⟩ =
      ⟨.read path :: ((Session.execute w .empty l).events ++
          (Script.conclusion 1 (Session.execute w .empty l).outcome).1),
        (Script.conclusion 1 (Session.execute w .empty l).outcome).2.map fun code =>
          (code, [])⟩ := by
  show (do return (← (Script.run w .empty path).run, []) : Run _) = _
  rw [bind_pure_comp, Run.map_eq, Script.run_of_holdsLine hl h]

/-- A dialogue with a single line runs it. -/
theorem exists_run_dialogue_eq {l : Text} (o : SettingsOptions) (hl : PlainLine l)
    (hpath : holdsNull s.historyFile = false) :
    ∃ prompts, run w s [.line l] ⟨none, none, o⟩ =
      ⟨(Interactive.start w s).events ++
          ((Session.runLine w .empty l).events ++
            Interactive.complaint (Session.runLine w .empty l).outcome) ++
          [.printed "Goodbye!\n"], .ok (0, prompts)⟩ := by
  obtain ⟨farewell, hrun⟩ := Interactive.exists_run_line_eq (w := w) hpath hl.trim_ne_help
  refine ⟨farewell.prompts, ?_⟩
  show (do return (0, (← (Interactive.run w s [.line l]).run).prompts) : Run _) = _
  rw [bind_pure_comp, Run.map_eq, hrun]
  rfl

end Invocation

variable {path l : Text}

/-- The three calls execute the same statement. -/
theorem sameStatement_report (w : World) (typed : List Typed) (hl : PlainLine l)
    (hholds : w.HoldsLine path l) (hargs : NamesScript path args)
    (hpath : holdsNull s.historyFile = false)
    (hsettings : Invocation.prepare env {} = .ok (s, level)) :
    SameStatement (Session.execute w .empty l) path level (Interactive.start w s).events
      (report w env typed ["-c", l]) (report w env typed args) (report w env [.line l] []) := by
  have hline := report_of_prepare_ok w typed (Request.ofArguments_line l) hsettings
  have hscript := report_of_prepare_ok w typed hargs.ofArguments hsettings
  have hdialogue := report_of_prepare_ok w [.line l] Request.ofArguments_nil hsettings
  obtain ⟨prompts, hrun⟩ := Invocation.exists_run_dialogue_eq (w := w) {} hl hpath
  rw [Invocation.run_line] at hline
  rw [Invocation.run_script s typed {} hl hholds] at hscript
  rw [hrun] at hdialogue
  have hnumber : Text.ofNat 1 = ['1'] := by decide
  -- what is left is to compute what each way adds to the execution, by how the statement ends
  refine ⟨fun status h => ?_, fun e h => ?_, fun f h hf => ?_⟩
  · rw [hline, hscript, hdialogue, h, Session.runLine_of_ok h]
    simp [Report.ofRun, Session.conclusion, Script.conclusion, Except.map, lineCode,
      Interactive.complaint, Turn.events, Turn.outcome]
  · rw [hline, hscript, hdialogue, h, Session.runLine_of_shell h]
    simp [Report.ofRun, Session.conclusion, Script.conclusion, Except.map, lineCode,
      Interactive.complaint, Turn.events, Turn.outcome, hnumber]
  · rw [hline, hscript, hdialogue, h, Session.runLine_of_escapes h hf,
      Session.conclusion_of_escapes hf, Script.conclusion_of_escapes hf]
    simp [Report.ofRun, Except.map, Interactive.complaint, Turn.events, Turn.outcome]

end Calls

/-! ## What the calls have in common -/

theorem Report.events_ofFailure (level : Nat) (events : List Event) (f : Failure) :
    (Report.ofFailure level events f).events = events := by
  cases f <;> rfl

/-- A complaint is for the user and the log only. -/
theorem Interactive.emits_complain (f : Failure) :
    (complain f).Emits fun e => (∃ t, e = .printed t) ∨ ∃ r, e = .logged r := by
  unfold complain
  split
  · exact Run.emits_emit (Or.inl ⟨_, rfl⟩)
  · have hlog := Run.emits_emit (P := fun e => (∃ t, e = .printed t) ∨ ∃ r, e = .logged r)
      (e := .logged .unexpected) (Or.inr ⟨_, rfl⟩)
    exact hlog.bind fun _ => Run.emits_emit (Or.inl ⟨_, rfl⟩)

/-- What is neither for the user nor for the log is the same in all calls. -/
theorem SameStatement.filterMap_eq {β : Type} {x : Turn Status} {path : Text} {level : Nat}
    {greeting : List Event} {line script dialogue : Report}
    (h : SameStatement x path level greeting line script dialogue)
    (hgreeting : ∀ e ∈ greeting, ∃ t, e = .printed t) {observe : Event → Option β}
    (hprinted : ∀ t, observe (.printed t) = none) (hlogged : ∀ r, observe (.logged r) = none) :
    line.events.filterMap observe = x.events.filterMap observe ∧
    script.events.filterMap observe =
      (observe (.read path)).toList ++ x.events.filterMap observe ∧
    dialogue.events.filterMap observe = x.events.filterMap observe := by
  have hquiet : greeting.filterMap observe = [] := by
    rw [List.filterMap_eq_nil_iff]
    intro e he
    obtain ⟨t, rfl⟩ := hgreeting e he
    exact hprinted t
  have hread : ∀ events : List Event, (Event.read path :: events).filterMap observe =
      (observe (.read path)).toList ++ events.filterMap observe := by
    intro events
    rw [List.filterMap_cons]
    cases observe (.read path) <;> rfl
  have hcomplain : ∀ f, (Interactive.complain f).events.filterMap observe = [] := by
    intro f
    rw [List.filterMap_eq_nil_iff]
    intro e he
    rcases Interactive.emits_complain f e he with ⟨t, rfl⟩ | ⟨r, rfl⟩
    · exact hprinted t
    · exact hlogged r
  cases houtcome : x.outcome with
  | ok status =>
      obtain ⟨rfl, rfl, hdialogue⟩ := h.of_ok status houtcome
      rw [hdialogue]
      simp [hread, hquiet, hprinted]
  | error f =>
      rcases f.eq_shell_or_escapes with ⟨e, rfl⟩ | hf
      · obtain ⟨rfl, rfl, hdialogue⟩ := h.of_error e houtcome
        rw [hdialogue]
        simp [hread, hquiet, hprinted, hlogged]
      · obtain ⟨rfl, rfl, hdialogue⟩ := h.of_escape f houtcome hf
        rw [hdialogue]
        simp [Report.events_ofFailure, hread, hquiet, hprinted, hcomplain]

/-- Calls that execute the same statement have the same effects on the world. -/
theorem SameStatement.sameEffects {x : Turn Status} {path : Text} {level : Nat}
    {greeting : List Event} {line script dialogue : Report}
    (h : SameStatement x path level greeting line script dialogue)
    (hgreeting : ∀ e ∈ greeting, ∃ t, e = .printed t) :
    SameEffects x path line script dialogue where
  reads := h.filterMap_eq hgreeting (fun _ => rfl) (fun _ => rfl)
  warnings := h.filterMap_eq hgreeting (fun _ => rfl) (fun _ => rfl)
  launches := h.filterMap_eq hgreeting (fun _ => rfl) (fun _ => rfl)

/-- **Three ways to run a line agree.**  Take a line that every way of entering hands on as it is,
a script that holds nothing else and an environment.  Unless the settings are refused, in which case
nothing is run by any of them, a call with the line, a call with the script and a dialogue in which
the line is all that is typed execute the same statement, without variables at first.

So they print the output of the same statement, have the same effects on the world and end with the
same variables.  If the statement succeeds, the exit code of the first two is zero; if it reports an
error, it is one, and the message is printed, by the script with the number of the line. -/
theorem calls_execute_same_statement (w : World) (env : Environment) (typed : List Typed)
    {path l : Text} {args : List Text} (hl : PlainLine l) (hholds : w.HoldsLine path l)
    (hargs : NamesScript path args) (henv : env.NullFree) :
    let x := Session.execute w .empty l
    (∀ f, Invocation.prepare env {} = .error f →
      ∀ a ∈ ([["-c", l], args, []] : List (List Text)),
        report w env typed a = .ofFailure warningSeverity [] f) ∧
    (∀ s level, Invocation.prepare env {} = .ok (s, level) →
      let line := report w env typed ["-c", l]
      let script := report w env typed args
      let dialogue := report w env [.line l] []
      (∀ e ∈ (Interactive.start w s).events, ∃ t, e = .printed t) ∧
      SameStatement x path level (Interactive.start w s).events line script dialogue ∧
      SameEffects x path line script dialogue ∧
      (Interactive.run w s [.line l]).vars = x.vars) ∧
    (Session.runLine w .empty l).vars = x.vars ∧
    (Script.run w .empty path).vars = x.vars := by
  refine ⟨fun f hf a ha => ?_, fun s level hsettings => ?_, rfl, ?_⟩
  · simp only [List.mem_cons, List.not_mem_nil, or_false] at ha
    rcases ha with rfl | rfl | rfl
    · exact report_of_prepare_error (Request.ofArguments_line l) hf
    · exact report_of_prepare_error hargs.ofArguments hf
    · exact report_of_prepare_error Request.ofArguments_nil hf
  · have hpath := henv.holdsNull_historyFile hsettings
    have hstart := Interactive.emits_start w s
    have hsame := sameStatement_report w typed hl hholds hargs hpath hsettings
    refine ⟨hstart, hsame, hsame.sameEffects hstart, ?_⟩
    obtain ⟨farewell, hrun⟩ := Interactive.exists_run_line_eq (w := w) hpath hl.trim_ne_help
    rw [hrun]
  · rw [Script.run_of_holdsLine hl hholds]

/-- An unknown program, in an environment that sets nothing. -/
theorem calls_execute_same_statement_unknown_program :
    let program : Text := ['f', 'o', 'o']
    let path : Text := ['s']
    let w : World :=
      ⟨fun _ => some (.content (Utf8.encode (program ++ ['\n']))), fun _ _ _ => .refused [], ['/']⟩
    let env : Environment := fun _ => none
    PlainLine program ∧ w.HoldsLine path program ∧ NamesScript path [path] ∧ env.NullFree ∧
      let line := report w env [] ["-c", program]
      let script := report w env [] [path]
      let message : Text := "foo: command not found\n"
      line.exitCode = 1 ∧ script.exitCode = 1 ∧
      .printed message ∈ line.events ∧ .printed ("Error at line 1: " ++ message) ∈ script.events ∧
      line.events.filterMap Event.launched? = script.events.filterMap Event.launched? := by
  intro program path w env
  have hl : PlainLine program := ⟨by decide, by decide, by decide, by decide, by decide⟩
  have hholds : w.HoldsLine path program :=
    ⟨by decide, ['\n'], Or.inr (.lineFeed []), rfl⟩
  have hargs : NamesScript path [path] := .plain (by decide)
  have henv : env.NullFree := nofun
  have hsettings : Invocation.prepare env {} =
      .ok (⟨"pipesh> ", "~/.pipesh_history", "WARNING"⟩, warningSeverity) := rfl
  have hfails : (Session.execute w .empty program).outcome =
      .error (.shell (.commandNotFound program)) := by
    have hline : substitute Variables.empty.lookup program = program := by
      simp [program, substitute, Piece.ofLine, Piece.value]
    have hofLine : Statement.ofLine Variables.empty.lookup program =
        some (.pipeline ⟨.external program [], []⟩) := by
      rw [Statement.ofLine, hline]
      decide
    rw [Session.outcome_execute_eq_error_iff_of_pipeline hofLine]
    rfl
  obtain ⟨-, hcalls, -⟩ := calls_execute_same_statement w env [] hl hholds hargs henv
  obtain ⟨-, hsame, heffects, -⟩ := hcalls _ _ hsettings
  obtain ⟨hline, hscript, -⟩ := hsame.of_error _ hfails
  refine ⟨hl, hholds, hargs, henv, ?_⟩
  dsimp only
  refine ⟨by rw [hline], by rw [hscript], ?_, ?_, ?_⟩
  · rw [hline]
    exact List.mem_append_right _ (by decide)
  · rw [hscript]
    exact List.mem_cons_of_mem _ (List.mem_append_right _ (by decide))
  · rw [heffects.launches.1, heffects.launches.2.1]

end TextShell
