import TextShell.Proofs.Classification
import TextShell.Session

/-!
# One line of a session

What a line does is decided by the statement that it is under the variables at that moment: nothing,
an assignment or a pipeline (`Session.execute_of_none`, `Session.execute_of_assignment`,
`Session.execute_of_pipeline`).  Everything else about lines follows from these three.  An
assignment changes the variable of its name and cannot fail, so a line that fails has changed no
variable, and a line ends the session exactly if its only stage begins with the word `exit`.

Running a line takes up the errors that commands report.  All other failures pass through it
(`Failure.Escapes`).
-/

namespace TextShell

/-- A failure that is no error of a command. -/
def Failure.Escapes (f : Failure) : Prop :=
  ∀ e : ShellError, f ≠ .shell e

theorem Failure.eq_shell_or_escapes (f : Failure) : (∃ e, f = .shell e) ∨ f.Escapes := by
  by_cases h : ∃ e, f = .shell e
  · exact Or.inl h
  · exact Or.inr fun e he => h ⟨e, he⟩

/-- The variables after a line that is a certain statement, or none. -/
def Variables.after (vars : Variables) : Option Statement → Variables
  | some (.assignment name value) => vars.set name value
  | _ => vars

/-! ## Which words select which commands -/

theorem Builtin.ofName?_name (b : Builtin) : ofName? b.name = some b := by
  cases b <;> decide

/-- A built-in command is selected by its own name and nothing else. -/
theorem Builtin.ofName?_eq_some_iff {name : Text} {b : Builtin} :
    ofName? name = some b ↔ name = b.name := by
  constructor
  · intro h
    have hname := List.find?_some (p := fun b' : Builtin => b'.name == name) h
    exact (eq_of_beq hname).symm
  · rintro rfl
    exact ofName?_name b

/-- A stage is a built-in command if its first word is the name of the command. -/
theorem Command.ofStage_eq_builtin_iff {words : List Text} (hne : words ≠ []) {b : Builtin}
    {args : List Text} : Command.ofStage words = .builtin b args ↔ words = b.name :: args := by
  obtain ⟨name, rest, rfl⟩ := List.exists_cons_of_ne_nil hne
  rw [Command.ofStage, Command.ofWords]
  cases hb : Builtin.ofName? name with
  | none =>
      refine ⟨nofun, fun h => ?_⟩
      rw [(List.cons.inj h).1, Builtin.ofName?_name] at hb
      cases hb
  | some b' =>
      obtain rfl := Builtin.ofName?_eq_some_iff.mp hb
      constructor
      · intro h
        obtain ⟨rfl, rfl⟩ := Command.builtin.inj h
        rfl
      · intro h
        obtain ⟨hname, rfl⟩ := List.cons.inj h
        rw [hname, Builtin.ofName?_name] at hb
        rw [hname, Option.some.inj hb]

/-- A pipeline ends the session if its only command is `exit`. -/
theorem Pipeline.status_eq_exit_iff {p : Pipeline} :
    p.status = .exit ↔ ∃ args, p.toList = [.builtin .exit args] := by
  obtain ⟨head, tail⟩ := p
  unfold status toList
  split
  · next args hhead htail =>
    obtain rfl : head = .builtin .exit args := hhead
    obtain rfl : tail = [] := htail
    exact ⟨fun _ => ⟨args, rfl⟩, fun _ => rfl⟩
  · next hno =>
    refine ⟨nofun, ?_⟩
    rintro ⟨args, h⟩
    obtain ⟨rfl, rfl⟩ := List.cons.inj h
    exact absurd rfl (hno args rfl)

/-- Stages are an exit if there is one only and its first word is `exit`. -/
theorem Statement.exists_status_eq_exit_iff {stages : List (List Text)}
    (h : ∀ words ∈ stages, words ≠ []) :
    (∃ p : Pipeline, ofStages stages = some (.pipeline p) ∧ p.status = .exit) ↔
      ∃ args, stages = [Builtin.exit.name :: args] := by
  rcases ofStages_cases stages with rfl | ⟨name, value, hname, rfl⟩ | ⟨p, hp, hlist⟩
  · exact ⟨nofun, nofun⟩
  · rw [ofStages_assignment hname]
    refine ⟨nofun, ?_⟩
    rintro ⟨args, hargs⟩
    -- the name of the command holds no equals sign
    have hwords : [name ++ '=' :: value] = Builtin.exit.name :: args := (List.cons.inj hargs).1
    have hword : name ++ '=' :: value = Builtin.exit.name := (List.cons.inj hwords).1
    have hmem : '=' ∈ Builtin.exit.name := by simp [← hword]
    exact absurd hmem (by decide)
  · have hstatus : (∃ p' : Pipeline, ofStages stages = some (.pipeline p') ∧ p'.status = .exit) ↔
        p.status = .exit := by
      simp [hp]
    rw [hstatus, Pipeline.status_eq_exit_iff, hlist]
    constructor
    · rintro ⟨args, hargs⟩
      obtain ⟨words, rfl, hwords⟩ := List.map_eq_singleton_iff.mp hargs
      have hwne := h words List.mem_cons_self
      exact ⟨args, by rw [(Command.ofStage_eq_builtin_iff hwne).mp hwords]⟩
    · rintro ⟨args, rfl⟩
      have hwne := h _ List.mem_cons_self
      exact ⟨args, by rw [List.map_singleton, (Command.ofStage_eq_builtin_iff hwne).mpr rfl]⟩

namespace Session

/-- What comes of running a line with a certain outcome: what is told about the error of a command,
and the status.  A failure that is no error of a command stays one. -/
def conclusion : Except Failure Status → List Event × Except Failure (Option Status)
  | .ok status => ([], .ok (some status))
  | .error (.shell e) => ([.logged (.failed e), .printed (e.message ++ ['\n'])], .ok none)
  | .error f => ([], .error f)

variable {w : World} {vars : Variables} {line : Text}

/-! ## The three kinds of lines -/

/-- A blank line does nothing. -/
theorem execute_of_none (h : Statement.ofLine vars.lookup line = none) :
    execute w vars line = ⟨⟨[], .ok .continue⟩, vars⟩ := by
  rw [execute, h]
  rfl

/-- An assignment changes the variables, prints nothing and succeeds. -/
theorem execute_of_assignment {name value : Text}
    (h : Statement.ofLine vars.lookup line = some (.assignment name value)) :
    execute w vars line =
      ⟨⟨[.logged (.parsed (.assignment name value)), .logged (.assigned name value)],
        .ok .continue⟩, vars.set name value⟩ := by
  rw [execute, h]
  rfl

/-- A pipeline runs, and its output is printed.  The variables stay. -/
theorem execute_of_pipeline {p : Pipeline}
    (h : Statement.ofLine vars.lookup line = some (.pipeline p)) :
    execute w vars line =
      .keep vars do
        Run.log (.parsed (.pipeline p))
        let output ← p.run w
        printOutput output
        return p.status := by
  rw [execute, h]
  simp only [Statement.execute, Turn.keep, bind_assoc, pure_bind]

/-- Only a pipeline can fail or end the session. -/
theorem exists_pipeline_of_outcome_ne (h : (execute w vars line).outcome ≠ .ok .continue) :
    ∃ p, Statement.ofLine vars.lookup line = some (.pipeline p) := by
  cases hline : Statement.ofLine vars.lookup line with
  | none => exact absurd (congrArg Turn.outcome (execute_of_none hline)) h
  | some s =>
      cases s with
      | assignment name value =>
          exact absurd (congrArg Turn.outcome (execute_of_assignment hline)) h
      | pipeline p => exact ⟨p, rfl⟩

/-- Printing does not fail. -/
theorem outcome_printOutput (output : Text) : (printOutput output).outcome = .ok () := by
  unfold printOutput
  split
  · rfl
  · split <;> rfl

/-- A pipeline fails as its commands do. -/
theorem outcome_execute_eq_error_iff_of_pipeline {p : Pipeline} {f : Failure}
    (h : Statement.ofLine vars.lookup line = some (.pipeline p)) :
    (execute w vars line).outcome = .error f ↔ (p.run w).outcome = .error f := by
  rw [execute_of_pipeline h, Turn.outcome, Turn.keep, Run.outcome_bind_eq_error_iff]
  have hlog : (Run.log (.parsed (.pipeline p))).outcome = .ok () := rfl
  simp [Run.outcome_bind_eq_error_iff, hlog, outcome_printOutput, pure, Run.done]

/-- A pipeline that succeeds says whether the session goes on. -/
theorem outcome_execute_eq_ok_iff_of_pipeline {p : Pipeline} {status : Status}
    (h : Statement.ofLine vars.lookup line = some (.pipeline p)) :
    (execute w vars line).outcome = .ok status ↔
      (∃ output, (p.run w).outcome = .ok output) ∧ p.status = status := by
  rw [execute_of_pipeline h, Turn.outcome, Turn.keep, Run.outcome_bind_eq_ok_iff]
  have hlog : (Run.log (.parsed (.pipeline p))).outcome = .ok () := rfl
  simp [Run.outcome_bind_eq_ok_iff, hlog, outcome_printOutput, pure, Run.done]

/-! ## Variables -/

/-- **The variables after a line** are those before it, but for an assignment. -/
theorem vars_execute (w : World) (vars : Variables) (line : Text) :
    (execute w vars line).vars = vars.after (Statement.ofLine vars.lookup line) := by
  cases h : Statement.ofLine vars.lookup line with
  | none => rw [execute_of_none h]; rfl
  | some s =>
      cases s with
      | assignment name value => rw [execute_of_assignment h]; rfl
      | pipeline p => rw [execute_of_pipeline h]; rfl

/-- A line that is no assignment changes no variable. -/
theorem vars_execute_of_no_assignment
    (h : ∀ name value : Text, Statement.ofLine vars.lookup line ≠ some (.assignment name value)) :
    (execute w vars line).vars = vars := by
  rw [vars_execute]
  unfold Variables.after
  split
  · next name value heq => exact absurd heq (h name value)
  · rfl

/-- **A line that fails or ends the session** changes no variable. -/
theorem vars_execute_of_outcome_ne (h : (execute w vars line).outcome ≠ .ok .continue) :
    (execute w vars line).vars = vars := by
  obtain ⟨p, hp⟩ := exists_pipeline_of_outcome_ne h
  rw [execute_of_pipeline hp]
  rfl

/-! ## Exits -/

/-- The command `exit` has no effects but that it is logged. -/
theorem outcome_run_exit {p : Pipeline} (h : p.status = .exit) :
    (p.run w).outcome = .ok [] := by
  obtain ⟨args, hargs⟩ := Pipeline.status_eq_exit_iff.mp h
  rw [Pipeline.run, hargs]
  rfl

/-- **A line ends the session** if its only stage begins with the word `exit`. -/
theorem outcome_execute_eq_exit_iff :
    (execute w vars line).outcome = .ok .exit ↔
      ∃ args, stages (substitute vars.lookup line) = [Builtin.exit.name :: args] := by
  have hstages : ∀ words ∈ stages (substitute vars.lookup line), words ≠ [] :=
    fun words => ne_nil_of_mem_stages
  rw [← Statement.exists_status_eq_exit_iff hstages]
  constructor
  · intro hexit
    obtain ⟨p, hp⟩ := exists_pipeline_of_outcome_ne (by rw [hexit]; nofun)
    exact ⟨p, hp, ((outcome_execute_eq_ok_iff_of_pipeline hp).mp hexit).2⟩
  · rintro ⟨p, hp, hstatus⟩
    exact (outcome_execute_eq_ok_iff_of_pipeline hp).mpr ⟨⟨[], outcome_run_exit hstatus⟩, hstatus⟩

/-! ## Running a line -/

/-- What `runLine` takes up or lets pass: the effects are those of the line. -/
theorem run_runLine (w : World) (vars : Variables) (line : Text) :
    (runLine w vars line).run =
      handle ⟨(execute w vars line).events, (execute w vars line).outcome.map some⟩ fun e => do
        Run.log (.failed e)
        printLine e.message
        return none := by
  rw [runLine, Run.map_eq]
  rfl

/-- A line that succeeds is run as it is executed. -/
theorem runLine_of_ok {status : Status} (h : (execute w vars line).outcome = .ok status) :
    runLine w vars line =
      ⟨⟨(execute w vars line).events, .ok (some status)⟩, (execute w vars line).vars⟩ := by
  have hrun := run_runLine w vars line
  rw [h] at hrun
  exact congrArg (Turn.mk · _) hrun

/-- The error of a command is logged and printed, and nothing comes of the line. -/
theorem runLine_of_shell {e : ShellError} (h : (execute w vars line).outcome = .error (.shell e)) :
    runLine w vars line =
      ⟨⟨(execute w vars line).events ++ [.logged (.failed e), .printed (e.message ++ ['\n'])],
        .ok none⟩, (execute w vars line).vars⟩ := by
  have hrun := run_runLine w vars line
  rw [h] at hrun
  exact congrArg (Turn.mk · _) hrun

/-- Another failure is not taken up. -/
theorem runLine_of_escapes {f : Failure} (h : (execute w vars line).outcome = .error f)
    (hf : f.Escapes) :
    runLine w vars line =
      ⟨⟨(execute w vars line).events, .error f⟩, (execute w vars line).vars⟩ := by
  have hrun := run_runLine w vars line
  rw [h, handle] at hrun
  refine congrArg (Turn.mk · _) (hrun.trans ?_)
  split
  · next e heq => exact absurd (Except.error.inj heq) (hf e)
  · rfl

theorem conclusion_of_escapes {f : Failure} (hf : f.Escapes) :
    conclusion (.error f) = ([], .error f) := by
  cases f with
  | shell e => exact absurd rfl (hf e)
  | _ => rfl

/-- **A line is run** by executing it and telling what comes of it. -/
theorem runLine_eq (w : World) (vars : Variables) (line : Text) :
    runLine w vars line =
      ⟨⟨(execute w vars line).events ++ (conclusion (execute w vars line).outcome).1,
        (conclusion (execute w vars line).outcome).2⟩, (execute w vars line).vars⟩ := by
  cases h : (execute w vars line).outcome with
  | ok status => rw [runLine_of_ok h, conclusion, List.append_nil]
  | error f =>
      rcases f.eq_shell_or_escapes with ⟨e, rfl⟩ | hf
      · rw [runLine_of_shell h, conclusion]
      · rw [runLine_of_escapes h hf, conclusion_of_escapes hf, List.append_nil]

@[simp] theorem vars_runLine (w : World) (vars : Variables) (line : Text) :
    (runLine w vars line).vars = (execute w vars line).vars := rfl

/-- A failure passes through unless it is the error of a command. -/
theorem outcome_runLine_eq_error_iff {f : Failure} :
    (runLine w vars line).outcome = .error f ↔
      (execute w vars line).outcome = .error f ∧ f.Escapes := by
  cases h : (execute w vars line).outcome with
  | ok status =>
      rw [runLine_of_ok h]
      exact ⟨nofun, nofun⟩
  | error g =>
      rcases g.eq_shell_or_escapes with ⟨e, rfl⟩ | hg
      · rw [runLine_of_shell h]
        refine ⟨nofun, ?_⟩
        rintro ⟨heq, hf⟩
        exact absurd (Except.error.inj heq).symm (hf e)
      · rw [runLine_of_escapes h hg]
        constructor
        · intro heq
          obtain rfl : g = f := Except.error.inj heq
          exact ⟨rfl, hg⟩
        · rintro ⟨heq, -⟩
          exact congrArg Except.error (Except.error.inj heq)

/-- Running a line ends the session if executing it does. -/
theorem outcome_runLine_eq_exit_iff :
    (runLine w vars line).outcome = .ok (some .exit) ↔
      (execute w vars line).outcome = .ok .exit := by
  cases h : (execute w vars line).outcome with
  | ok status =>
      rw [runLine_of_ok h, Turn.outcome]
      simp
  | error f =>
      refine ⟨fun hexit => ?_, nofun⟩
      rcases f.eq_shell_or_escapes with ⟨e, rfl⟩ | hf
      · rw [runLine_of_shell h] at hexit
        cases hexit
      · rw [runLine_of_escapes h hf] at hexit
        cases hexit

end Session

end TextShell
