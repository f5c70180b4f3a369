import TextShell.Interactive
import TextShell.Proofs.Session.Course
import TextShell.Proofs.Session.Line

/-!
# The dialogue as a whole

The interactive loop answers what is typed until a line ends it, and nothing else ends it.  This
makes it a course (`Interactive.course`) that stops at the lines that end the dialogue (`Ends`).  As
long as none does, the effects follow each other, the variables are handed on and there is one
prompt for each event (`loop_append`).  An event that ends the dialogue is the last that is read,
and when there are no more events there is one prompt in vain.  Since a course goes on to its end or
has a first input that stops it, this is the whole dialogue (`exists_run_eq`).
-/

namespace TextShell

namespace Interactive

/-- A typed line that ends the dialogue: it is not the word `help`, and its only stage begins with
the word `exit`. -/
def Ends (vars : Variables) : Typed → Prop
  | .interrupt => False
  | .line t => t.trim ≠ "help".toList ∧
      ∃ args, stages (substitute vars.lookup t) = [Builtin.exit.name :: args]

/-- The variables after one typed event. -/
def nextVars (w : World) (vars : Variables) : Typed → Variables
  | .interrupt => vars
  | .line t => (answer w vars t).vars

/-- The effects of one typed event. -/
def reaction (w : World) (vars : Variables) : Typed → List Event
  | .interrupt => []
  | .line t => (answer w vars t).events

/-- Typed events are answered in order, up to one that ends the dialogue. -/
def course (w : World) : Course Variables Typed where
  next := nextVars w
  effects := reaction w
  Stops := Ends

/-- What the user is told about a line that fails with something else than the error of a
command. -/
def complaint {α : Type} : Except Failure α → List Event
  | .ok _ => []
  | .error f => (complain f).events

/-- What is typed is an interrupt, asks for the help or fails. -/
inductive Disturbs (w : World) (vars : Variables) : Typed → Prop
  | interrupt : Disturbs w vars .interrupt
  | help {line : Text} : line.trim = "help".toList → Disturbs w vars (.line line)
  | failure {line : Text} {f : Failure} : (Session.execute w vars line).outcome = .error f →
      Disturbs w vars (.line line)

variable {w : World} {vars : Variables}

/-! ## One typed event -/

theorem answer_of_help {line : Text} (h : line.trim = "help".toList) :
    answer w vars line = ⟨printHelp.events, vars, .continue⟩ := by
  rw [answer, if_pos h]

/-- A run that is survived has its own effects and those of the complaint. -/
theorem survive_eq {α : Type} (r : Run (Option α)) :
    survive r = (r.events ++ complaint r.outcome, r.outcome.toOption.join) := by
  obtain ⟨events, outcome⟩ := r
  cases outcome <;> simp [survive, complaint, Except.toOption]

/-- Every other line is run, and failures are told and forgotten. -/
theorem answer_of_ne_help {line : Text} (h : line.trim ≠ "help".toList) :
    answer w vars line =
      ⟨(Session.runLine w vars line).events ++ complaint (Session.runLine w vars line).outcome,
        (Session.runLine w vars line).vars,
        (Session.runLine w vars line).outcome.toOption.join.getD .continue⟩ := by
  rw [answer, if_neg h]
  simp only [survive_eq]
  rfl

/-- A line that is run ends the dialogue if its status says so. -/
theorem status_answer_eq_exit_iff_of_ne_help {line : Text} (h : line.trim ≠ "help".toList) :
    (answer w vars line).status = .exit ↔
      (Session.runLine w vars line).outcome = .ok (some .exit) := by
  rw [answer_of_ne_help h]
  cases hrun : (Session.runLine w vars line).outcome with
  | error f => exact ⟨nofun, nofun⟩
  | ok status => cases status <;> simp [Except.toOption]

/-- **A line ends the dialogue** if it says `exit` and is not `help`. -/
theorem status_answer_eq_exit_iff {line : Text} :
    (answer w vars line).status = .exit ↔ Ends vars (.line line) := by
  by_cases h : line.trim = "help".toList
  · rw [answer_of_help h]
    exact ⟨nofun, fun hends => absurd h hends.1⟩
  · rw [status_answer_eq_exit_iff_of_ne_help h, Session.outcome_runLine_eq_exit_iff,
      Session.outcome_execute_eq_exit_iff, Ends, and_iff_right h]

/-- Interrupts, requests for help and failing lines change no variable. -/
theorem Disturbs.nextVars_eq {e : Typed} (h : Disturbs w vars e) : nextVars w vars e = vars := by
  cases h with
  | interrupt => rfl
  | help hhelp => rw [nextVars, answer_of_help hhelp]
  | @failure line f hf =>
      by_cases hhelp : line.trim = "help".toList
      · rw [nextVars, answer_of_help hhelp]
      · have hne : (Session.execute w vars line).outcome ≠ .ok .continue := by
          rw [hf]
          nofun
        rw [nextVars, answer_of_ne_help hhelp, Session.vars_runLine,
          Session.vars_execute_of_outcome_ne hne]

/-- Interrupts, requests for help and failing lines do not end the dialogue. -/
theorem Disturbs.not_ends {e : Typed} (h : Disturbs w vars e) : ¬ Ends vars e := by
  cases h with
  | interrupt => exact id
  | help hhelp => exact fun hends => hends.1 hhelp
  | failure hf =>
      intro hends
      rw [Session.outcome_execute_eq_exit_iff.mpr hends.2] at hf
      cases hf

/-! ## The loop -/

/-- An event that does not end the dialogue is answered, and the loop goes on. -/
theorem loop_cons_of_not_ends {e : Typed} (h : ¬ Ends vars e) (typed : List Typed) :
    loop w vars (e :: typed) =
      { events := (course w).effects vars e ++ (loop w ((course w).next vars e) typed).events
        vars := (loop w ((course w).next vars e) typed).vars
        prompts := (loop w ((course w).next vars e) typed).prompts + 1
        unread := (loop w ((course w).next vars e) typed).unread } := by
  cases e with
  | interrupt => rfl
  | line line =>
      rw [loop]
      split
      · next hexit => exact absurd (status_answer_eq_exit_iff.mp hexit) h
      · rfl

/-- An event that ends the dialogue is answered, and the rest is not read. -/
theorem loop_cons_of_ends {e : Typed} (h : Ends vars e) (typed : List Typed) :
    loop w vars (e :: typed) = ⟨(course w).effects vars e, (course w).next vars e, 1, typed⟩ := by
  cases e with
  | interrupt => exact absurd h id
  | line line =>
      rw [loop]
      split
      · rfl
      · next hcontinue =>
        rw [status_answer_eq_exit_iff.mpr h] at hcontinue
        cases hcontinue

/-- **Events that do not end the dialogue** are answered in order, with one prompt for each. -/
theorem loop_append {before : List Typed} (h : (course w).GoesOn vars before) (after : List Typed) :
    loop w vars (before ++ after) =
      { events :=
          (course w).events vars before ++ (loop w ((course w).after vars before) after).events
        vars := (loop w ((course w).after vars before) after).vars
        prompts := before.length + (loop w ((course w).after vars before) after).prompts
        unread := (loop w ((course w).after vars before) after).unread } := by
  induction before generalizing vars with
  | nil => simp [Course.events, Course.after]
  | cons e before ih =>
      obtain ⟨hhead, htail⟩ := Course.goesOn_cons.mp h
      rw [List.cons_append, loop_cons_of_not_ends hhead, ih htail]
      simp only [Course.events, Course.after, List.foldl_cons, List.append_assoc, List.length_cons,
        Dialogue.mk.injEq, true_and, and_true]
      -- the first event has a prompt of its own
      omega

/-- What the loop reads and what it does: everything up to the first event that ends the dialogue,
or everything that is typed. -/
theorem exists_loop_eq (w : World) (vars : Variables) (typed : List Typed) :
    ∃ consumed unread prompts, typed = consumed ++ unread ∧
      loop w vars typed =
        ⟨(course w).events vars consumed, (course w).after vars consumed, prompts, unread⟩ ∧
      ((course w).GoesOn vars consumed ∧ unread = [] ∧ prompts = consumed.length + 1 ∨
        (∃ before e, consumed = before ++ [e] ∧ (course w).GoesOn vars before ∧
          Ends ((course w).after vars before) e) ∧ prompts = consumed.length) := by
  rcases (course w).goesOn_or_exists_stops vars typed with
    hgoes | ⟨before, e, after, rfl, hgoes, hends⟩
  · have hloop := loop_append hgoes []
    rw [List.append_nil] at hloop
    refine ⟨typed, [], typed.length + 1, (List.append_nil typed).symm, ?_, Or.inl ⟨hgoes, rfl, rfl⟩⟩
    rw [hloop, loop, List.append_nil]
  · refine ⟨before ++ [e], after, (before ++ [e]).length, by simp, ?_,
      Or.inr ⟨⟨before, e, rfl, hgoes, hends⟩, rfl⟩⟩
    rw [loop_append hgoes, loop_cons_of_ends hends, Course.events_append]
    simp [Course.events, Course.after]

/-! ## The dialogue -/

/-- The dialogue starts unless the path of the history file holds a null character. -/
theorem exists_outcome_start (w : World) {s : Settings} (h : holdsNull s.historyFile = false) :
    ∃ history, (start w s).outcome = .ok history := by
  have hstart : (start w s).outcome = (chooseHistory w s.historyFile).outcome := by
    simp [start, greet, printLine, bind, Run.andThen, Run.emit]
  rw [hstart, chooseHistory, h, if_neg Bool.false_ne_true]
  split
  · exact ⟨none, rfl⟩
  · split
    · exact ⟨none, rfl⟩
    · exact ⟨some s.historyFile, rfl⟩

/-- A dialogue that starts is the loop between the start and the farewell. -/
theorem run_of_start {s : Settings} {history : Option Text}
    (h : (start w s).outcome = .ok history) (typed : List Typed) :
    run w s typed =
      { run := ⟨(start w s).events ++ (loop w .empty typed).events ++ [.printed "Goodbye!\n"],
          .ok ⟨history, List.replicate (loop w .empty typed).prompts s.prompt,
            (loop w .empty typed).unread⟩⟩
        vars := (loop w .empty typed).vars } := by
  rw [run, h]
  rfl

/-- **The whole dialogue** succeeds.  It reads the events up to the first one that ends it, or all
of them, answers each in the state that the ones before it left behind and says goodbye; there is
one prompt for each event, and one more if the events ran out.

A line ends the dialogue if it is not `help` and says `exit`.  Every line but `help` acts as it does
when it is run on its own, and a failure is only told to the user.  Neither an interrupt nor a
request for help nor a failing line ends the dialogue or changes a variable. -/
theorem exists_run_eq (w : World) (s : Settings) (typed : List Typed)
    (hpath : holdsNull s.historyFile = false) :
    (∃ history consumed unread prompts,
      (start w s).outcome = .ok history ∧
      run w s typed =
        { run :=
            ⟨(start w s).events ++ (course w).events .empty consumed ++ [.printed "Goodbye!\n"],
              .ok ⟨history, List.replicate prompts s.prompt, unread⟩⟩
          vars := (course w).after .empty consumed } ∧
      typed = consumed ++ unread ∧
      ((course w).GoesOn .empty consumed ∧ unread = [] ∧ prompts = consumed.length + 1 ∨
        (∃ before e, consumed = before ++ [e] ∧ (course w).GoesOn .empty before ∧
          Ends ((course w).after .empty before) e) ∧ prompts = consumed.length)) ∧
    ∀ vars : Variables,
      (∀ line, (answer w vars line).status = .exit ↔ Ends vars (.line line)) ∧
      (∀ line : Text, line.trim ≠ "help".toList →
        (answer w vars line).vars = (Session.runLine w vars line).vars ∧
        (answer w vars line).events =
          (Session.runLine w vars line).events ++
            complaint (Session.runLine w vars line).outcome ∧
        ((answer w vars line).status = .exit ↔
          (Session.runLine w vars line).outcome = .ok (some .exit))) ∧
      (∀ e, Disturbs w vars e → ¬ Ends vars e ∧ nextVars w vars e = vars) := by
  refine ⟨?_, fun vars => ⟨fun line => status_answer_eq_exit_iff, fun line hline => ?_, fun e he =>
    ⟨he.not_ends, he.nextVars_eq⟩⟩⟩
  · obtain ⟨history, hhistory⟩ := exists_outcome_start w hpath
    obtain ⟨consumed, unread, prompts, hread, hloop, hend⟩ := exists_loop_eq w .empty typed
    refine ⟨history, consumed, unread, prompts, hhistory, ?_, hread, hend⟩
    rw [run_of_start hhistory, hloop]
  · refine ⟨?_, ?_, status_answer_eq_exit_iff_of_ne_help hline⟩
    · rw [answer_of_ne_help hline]
    · rw [answer_of_ne_help hline]

/-- After an interrupt and `exit`, a third line is not read. -/
theorem exists_run_eq_interrupt_exit :
    let w : World := ⟨fun _ => none, fun _ _ _ => .interrupted, ['/']⟩
    let s : Settings := ⟨['>'], ['h'], []⟩
    let typed : List Typed := [.interrupt, .line ['e', 'x', 'i', 't'], .line ['p', 'w', 'd']]
    holdsNull s.historyFile = false ∧
      ∃ history, (run w s typed).outcome = .ok ⟨history, [['>'], ['>']], typed.drop 2⟩ := by
  intro w s typed
  have hpath : holdsNull s.historyFile = false := by decide
  have hexit : Ends .empty (.line ['e', 'x', 'i', 't']) := by
    have hline : substitute Variables.empty.lookup ['e', 'x', 'i', 't'] = ['e', 'x', 'i', 't'] := by
      simp [substitute, Piece.ofLine, Piece.value]
    refine ⟨by decide, [], ?_⟩
    rw [hline]
    decide
  obtain ⟨history, consumed, unread, prompts, -, hrun, hread, hend⟩ :=
    (exists_run_eq w s typed hpath).1
  refine ⟨hpath, history, ?_⟩
  rcases hend with ⟨hgoes, rfl, -⟩ | ⟨⟨before, e, rfl, hgoes, hends⟩, rfl⟩
  · obtain rfl : typed = consumed := by rw [hread, List.append_nil]
    exact absurd hexit (hgoes [.interrupt] _ _ rfl)
  · -- the interrupt comes before `exit`, and no third line after it
    cases before with
    | nil =>
        obtain ⟨rfl, -⟩ := List.cons.inj hread
        exact absurd hends id
    | cons e₁ before =>
        obtain ⟨rfl, htail⟩ := List.cons.inj hread
        cases before with
        | nil =>
            obtain ⟨rfl, rfl⟩ := List.cons.inj htail
            rw [hrun]
            rfl
        | cons e₂ before =>
            obtain ⟨rfl, -⟩ := List.cons.inj htail
            exact absurd hexit (hgoes [.interrupt] _ _ rfl)

end Interactive

end TextShell
