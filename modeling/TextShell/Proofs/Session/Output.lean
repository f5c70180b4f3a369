import TextShell.Proofs.Effects
import TextShell.Proofs.Session.Course
import TextShell.Proofs.Session.Line

/-!
# What lines write

A line writes all of its output or nothing.  Its commands print nothing themselves
(`Pipeline.emits_run`), so whatever the stages of a pipeline have produced is dropped when a later
one fails, and the only thing that is printed is the output of the last stage, once all of them
have succeeded.  A failing line changes no variable either (`Session.vars_execute_of_outcome_ne`).

So the text of a line is determined by the output of its statement: it is that output, ended by a
line feed (`endedOutput`), or the message that is reported instead (`reportText`).  Both are whole
lines (`WholeLines`), and so is everything that a session writes (`Session.wholeLines_texts`).

## Main Definitions

* `printedText` — the text that effects print
* `endedOutput`, `reportText` — what is written for an output and for a failure
* `WholeLines` — a text in which no line is unfinished
* `Session.output` — the output of a line, or its failure
* `Session.course`, `Session.texts` — lines that are run one after the other, and what each writes
-/

namespace TextShell

/-- The text that effects print. -/
def printedText (events : List Event) : Text :=
  (events.filterMap Event.printed?).flatten

/-- An output as it is written: a line feed follows it if it is not empty and does not end in
one. -/
def endedOutput (output : Text) : Text :=
  output ++ if output ≠ [] ∧ output.getLast? ≠ some '\n' then ['\n'] else []

/-- What running a line writes about a failure: the message of an error, on a line of its own. -/
def reportText : Failure → Text
  | .shell e => e.message ++ ['\n']
  | _ => []

/-- A text in which no line is unfinished. -/
def WholeLines (t : Text) : Prop :=
  t = [] ∨ t.getLast? = some '\n'

/-! ## Whole lines -/

theorem wholeLines_nil : WholeLines [] :=
  Or.inl rfl

theorem wholeLines_append_lineFeed (t : Text) : WholeLines (t ++ ['\n']) :=
  Or.inr (by simp)

theorem WholeLines.append {s t : Text} (hs : WholeLines s) (ht : WholeLines t) :
    WholeLines (s ++ t) := by
  rcases ht with rfl | ht
  · rwa [List.append_nil]
  · refine Or.inr ?_
    rw [List.getLast?_append, ht]
    rfl

theorem wholeLines_flatten {ts : List Text} (h : ∀ t ∈ ts, WholeLines t) :
    WholeLines ts.flatten := by
  induction ts with
  | nil => exact wholeLines_nil
  | cons t ts ih =>
      have htail := ih fun u hu => h u (List.mem_cons_of_mem _ hu)
      exact (h t List.mem_cons_self).append htail

theorem wholeLines_endedOutput (output : Text) : WholeLines (endedOutput output) := by
  unfold endedOutput
  split
  · exact wholeLines_append_lineFeed output
  · next h =>
    rw [List.append_nil]
    by_cases hne : output = []
    · exact Or.inl hne
    · exact Or.inr (Classical.not_not.mp fun hlast => h ⟨hne, hlast⟩)

theorem wholeLines_reportText (f : Failure) : WholeLines (reportText f) := by
  unfold reportText
  split
  · exact wholeLines_append_lineFeed _
  · exact wholeLines_nil

/-! ## Printed texts -/

@[simp] theorem printedText_nil : printedText [] = [] := rfl

@[simp] theorem printedText_append (before after : List Event) :
    printedText (before ++ after) = printedText before ++ printedText after := by
  simp [printedText]

/-- Effects that are not printed make no text. -/
theorem printedText_eq_nil {events : List Event} (h : ∀ e ∈ events, e.printed? = none) :
    printedText events = [] := by
  rw [printedText, List.filterMap_eq_nil_iff.mpr h]
  rfl

@[simp] theorem printedText_cons_logged (r : Record) (events : List Event) :
    printedText (.logged r :: events) = printedText events := rfl

@[simp] theorem printedText_cons_printed (t : Text) (events : List Event) :
    printedText (.printed t :: events) = t ++ printedText events := rfl

/-- An output is printed with a line feed after it, unless it is empty or ends in one. -/
theorem printedText_printOutput (output : Text) :
    printedText (printOutput output).events = endedOutput output := by
  unfold printOutput endedOutput
  by_cases hne : output = []
  · subst hne
    rfl
  · rw [if_neg (by simpa using hne)]
    by_cases hlast : output.getLast? = some '\n'
    · simp [hlast, Run.emit]
    · simp [hne, hlast, printLine, Run.emit]

namespace Session

/-- The output of a line: that of its statement, and an empty one if the line is blank. -/
def output (w : World) (vars : Variables) (line : Text) : Except Failure Text :=
  match Statement.ofLine vars.lookup line with
  | none => .ok []
  | some s => (s.execute w vars).outcome.map Prod.fst

/-- Lines that are run one after the other, each in the world that it meets. -/
def course : Course Variables (World × Text) where
  next vars l := (runLine l.1 vars l.2).vars
  effects vars l := (runLine l.1 vars l.2).events
  Stops _ _ := False

/-- What each of some lines writes. -/
def texts (vars : Variables) : List (World × Text) → List Text
  | [] => []
  | (w, line) :: rest =>
      (runLine w vars line).printed :: texts (runLine w vars line).vars rest

variable {w : World} {vars : Variables} {line : Text}

/-! ## The output of a line -/

theorem output_of_pipeline {p : Pipeline}
    (h : Statement.ofLine vars.lookup line = some (.pipeline p)) :
    output w vars line = (p.run w).outcome := by
  rw [output, h]
  show ((do return (← p.run w, p.status) : Run (Text × Status)).outcome).map Prod.fst = _
  cases hrun : (p.run w).outcome <;> simp [bind, Run.andThen, hrun, pure, Run.done, Except.map]

/-- A line that is no pipeline has an empty output. -/
theorem output_of_no_pipeline
    (h : ∀ p, Statement.ofLine vars.lookup line ≠ some (.pipeline p)) :
    output w vars line = .ok [] := by
  unfold output
  split
  · rfl
  · next s hline =>
    cases s with
    | assignment name value => rfl
    | pipeline p => exact absurd hline (h p)

/-- **A line fails** exactly if its output does. -/
theorem outcome_execute_eq_error_iff_output {f : Failure} :
    (execute w vars line).outcome = .error f ↔ output w vars line = .error f := by
  by_cases h : ∃ p, Statement.ofLine vars.lookup line = some (.pipeline p)
  · obtain ⟨p, hp⟩ := h
    rw [outcome_execute_eq_error_iff_of_pipeline hp, output_of_pipeline hp]
  · have hno := not_exists.mp h
    rw [output_of_no_pipeline hno]
    refine ⟨fun herror => ?_, nofun⟩
    obtain ⟨p, hp⟩ := exists_pipeline_of_outcome_ne (by rw [herror]; nofun)
    exact absurd hp (hno p)

/-- The effects of a line whose pipeline fails are those of the pipeline. -/
theorem events_execute_of_pipeline_error {p : Pipeline} {f : Failure}
    (h : Statement.ofLine vars.lookup line = some (.pipeline p))
    (hrun : (p.run w).outcome = .error f) :
    (execute w vars line).events = .logged (.parsed (.pipeline p)) :: (p.run w).events := by
  rw [execute_of_pipeline h]
  simp [Turn.keep, Turn.events, Run.log, bind, Run.andThen, Run.emit, hrun]

/-- If the pipeline succeeds, its output is printed after everything else. -/
theorem events_execute_of_pipeline_ok {p : Pipeline} {out : Text}
    (h : Statement.ofLine vars.lookup line = some (.pipeline p))
    (hrun : (p.run w).outcome = .ok out) :
    (execute w vars line).events =
      .logged (.parsed (.pipeline p)) :: ((p.run w).events ++ (printOutput out).events) := by
  rw [execute_of_pipeline h]
  simp [Turn.keep, Turn.events, Run.log, bind, Run.andThen, Run.emit, hrun, outcome_printOutput,
    pure, Run.done]

/-- **A line that fails prints nothing**, whatever its stages have produced. -/
theorem printed?_eq_none_of_error {f : Failure} (h : (execute w vars line).outcome = .error f) :
    ∀ e ∈ (execute w vars line).events, e.printed? = none := by
  obtain ⟨p, hp⟩ := exists_pipeline_of_outcome_ne (by rw [h]; nofun)
  have hrun := (outcome_execute_eq_error_iff_of_pipeline hp).mp h
  rw [events_execute_of_pipeline_error hp hrun]
  intro e he
  rcases List.mem_cons.mp he with rfl | he
  · rfl
  · exact p.emits_run w e he

/-- **A line that succeeds prints its output.** -/
theorem printed_execute_of_ok {out : Text} (h : output w vars line = .ok out) :
    (execute w vars line).printed = endedOutput out := by
  cases hline : Statement.ofLine vars.lookup line with
  | none =>
      rw [output_of_no_pipeline (by simp [hline])] at h
      obtain rfl := Except.ok.inj h
      rw [execute_of_none hline]
      rfl
  | some s =>
      cases s with
      | assignment name value =>
          rw [output_of_no_pipeline (by simp [hline])] at h
          obtain rfl := Except.ok.inj h
          rw [execute_of_assignment hline]
          rfl
      | pipeline p =>
          rw [output_of_pipeline hline] at h
          show printedText (execute w vars line).events = _
          rw [events_execute_of_pipeline_ok hline h, printedText_cons_logged, printedText_append,
            printedText_eq_nil (p.emits_run w), printedText_printOutput, List.nil_append]

/-- What running a line writes about a failure. -/
theorem printed_runLine_of_error {f : Failure} (h : (execute w vars line).outcome = .error f) :
    (runLine w vars line).printed = reportText f := by
  have hquiet : printedText (execute w vars line).events = [] :=
    printedText_eq_nil (printed?_eq_none_of_error h)
  show printedText (runLine w vars line).events = _
  rcases f.eq_shell_or_escapes with ⟨e, rfl⟩ | hf
  · rw [runLine_of_shell h]
    show printedText (_ ++ _) = _
    rw [printedText_append, hquiet]
    simp [reportText]
  · rw [runLine_of_escapes h hf]
    show printedText (execute w vars line).events = _
    rw [hquiet]
    cases f with
    | shell e => exact absurd rfl (hf e)
    | _ => rfl

/-- A line that succeeds writes the same whether it is run or executed. -/
theorem printed_runLine_of_ok {status : Status}
    (h : (execute w vars line).outcome = .ok status) :
    (runLine w vars line).printed = (execute w vars line).printed := by
  rw [runLine_of_ok h]
  rfl

/-- A line that succeeds has an output. -/
theorem exists_output_of_ok {status : Status} (h : (execute w vars line).outcome = .ok status) :
    ∃ out, output w vars line = .ok out := by
  cases hout : output w vars line with
  | ok out => exact ⟨out, rfl⟩
  | error f =>
      rw [outcome_execute_eq_error_iff_output.mpr hout] at h
      cases h

/-- Running a line leaves no line of text unfinished. -/
theorem wholeLines_runLine (w : World) (vars : Variables) (line : Text) :
    WholeLines (runLine w vars line).printed := by
  cases h : (execute w vars line).outcome with
  | error f =>
      rw [printed_runLine_of_error h]
      exact wholeLines_reportText f
  | ok status =>
      obtain ⟨out, hout⟩ := exists_output_of_ok h
      rw [printed_runLine_of_ok h, printed_execute_of_ok hout]
      exact wholeLines_endedOutput out

/-! ## Lines one after the other -/

/-- The texts of lines follow each other. -/
theorem printedText_course (vars : Variables) (lines : List (World × Text)) :
    printedText (course.events vars lines) = (texts vars lines).flatten := by
  induction lines generalizing vars with
  | nil => rfl
  | cons l lines ih =>
      rw [Course.events, printedText_append, ih]
      rfl

theorem wholeLines_texts (vars : Variables) (lines : List (World × Text)) :
    ∀ t ∈ texts vars lines, WholeLines t := by
  induction lines generalizing vars with
  | nil => exact nofun
  | cons l lines ih =>
      intro t ht
      rcases List.mem_cons.mp ht with rfl | ht
      · exact wholeLines_runLine l.1 vars l.2
      · exact ih _ t ht

/-- **All or nothing for each line.**  A line that fails, with whatever failure, has printed nothing
and changed no variable; running it writes the message if it is the error of a command and nothing
otherwise.  A line that succeeds prints its output, with a line feed after it exactly if it is not
empty and does not end in one.

So whatever lines are run one after the other, in whatever worlds, what they write is the texts of
the single lines in order, and no line of it is unfinished. -/
theorem writes_all_or_nothing (w : World) (vars : Variables) (line : Text) :
    (∀ f, (execute w vars line).outcome = .error f →
      (∀ t, Event.printed t ∉ (execute w vars line).events) ∧
      (execute w vars line).vars = vars ∧
      (runLine w vars line).vars = vars ∧
      (runLine w vars line).printed = reportText f) ∧
    (∀ status, (execute w vars line).outcome = .ok status →
      ∃ out, output w vars line = .ok out ∧
        (execute w vars line).printed = endedOutput out ∧
        (runLine w vars line).printed = endedOutput out) ∧
    ∀ lines : List (World × Text),
      printedText (course.events .empty lines) = (texts .empty lines).flatten ∧
      WholeLines (printedText (course.events .empty lines)) := by
  refine ⟨fun f hf => ⟨fun t ht => ?_, ?_, ?_, printed_runLine_of_error hf⟩,
    fun status hstatus => ?_, fun lines => ⟨printedText_course .empty lines, ?_⟩⟩
  · cases printed?_eq_none_of_error hf _ ht
  · exact vars_execute_of_outcome_ne (by rw [hf]; nofun)
  · exact vars_execute_of_outcome_ne (by rw [hf]; nofun)
  · obtain ⟨out, hout⟩ := exists_output_of_ok hstatus
    have hprinted := printed_execute_of_ok hout
    exact ⟨out, hout, hprinted, (printed_runLine_of_ok hstatus).trans hprinted⟩
  · rw [printedText_course]
    exact wholeLines_flatten (wholeLines_texts .empty lines)

end Session

end TextShell
