import TextShell.Proofs.World

/-!
# The effects of commands

What a command does to the world is limited by its kind.  The built-in ones look at files and warn
about them; a program is launched, with the words of its own stage and with the text that the stage
reads, and nothing else is done for it.  No command prints.

`Run.Emits` says that all effects of a run are of some kind.  It passes from the parts of a run to
the whole (`Run.Emits.bind`), so each function of the command layer needs a word about its own
effects only.  `Command.emits_run` puts the commands together, and
`Command.filterMap_launched?_run` says which program is launched and when.

## Main Definitions

* `Run.Emits` — every effect is of some kind
* `Event.OfFile`, `Event.OfLaunch` — the two kinds of effects
* `Command.MayEmit` — the effects that a command may have
* `Command.launches` — what a command launches
-/

namespace TextShell

/-- What comes of looking at a file. -/
inductive Event.OfFile : Event → Prop
  | read (path : Text) : OfFile (.read path)
  | warned (message : Text) : OfFile (.warned message)

/-- What comes of launching a program with some input. -/
inductive Event.OfLaunch (program : Text) (args : List Text) (input : Text) : Event → Prop
  | launching : OfLaunch program args input (.logged (.launching (program :: args)))
  | launched : OfLaunch program args input (.launched (program :: args) input)
  | exited (status : Int) : OfLaunch program args input (.logged (.exited program status))

/-- **The effects that a command may have** when it reads `input`. -/
def Command.MayEmit (input : Text) : Command → Event → Prop
  | .builtin _ _ => Event.OfFile
  | .external program args => Event.OfLaunch program args input

/-- What a command launches when it reads `input`: itself with its own words, if it is a program
and no null character stands in the way. -/
def Command.launches (input : Text) (c : Command) : List (List Text × Text) :=
  let words := c.name :: c.args
  if c.isBuiltin || words.any holdsNull then [] else [(words, input)]

/-! ## Runs -/

namespace Run

/-- Every effect of the run is of some kind. -/
def Emits {α : Type} (P : Event → Prop) (r : Run α) : Prop :=
  ∀ e ∈ r.events, P e

variable {α β : Type} {P Q : Event → Prop}

theorem Emits.mono {r : Run α} (h : r.Emits P) (himp : ∀ e, P e → Q e) : r.Emits Q :=
  fun e he => himp e (h e he)

theorem emits_of_events_eq_nil {r : Run α} (h : r.events = []) : r.Emits P := by
  intro e he
  rw [h] at he
  cases he

theorem emits_pure (a : α) : (pure a : Run α).Emits P :=
  emits_of_events_eq_nil rfl

theorem emits_fail (f : Failure) : (fail f : Run α).Emits P :=
  emits_of_events_eq_nil rfl

theorem emits_report (message : Text) : (report message : Run α).Emits P :=
  emits_fail _

theorem emits_emit {e : Event} (h : P e) : (emit e).Emits P := by
  intro e' he'
  obtain rfl := List.mem_singleton.mp he'
  exact h

/-- What follows a run has effects of the same kind. -/
theorem Emits.bind {m : Run α} {f : α → Run β} (hm : m.Emits P) (hf : ∀ a, (f a).Emits P) :
    (m >>= f).Emits P := by
  obtain ⟨events, outcome⟩ := m
  cases outcome with
  | error g => exact hm
  | ok a =>
      intro e he
      rcases List.mem_append.mp he with he | he
      · exact hm e he
      · exact hf a e he

/-- What follows a run without an effect of its own adds none. -/
theorem events_bind_of_no_effect {m : Run α} {f : α → Run β} (hf : ∀ a, (f a).events = []) :
    (m >>= f).events = m.events := by
  obtain ⟨events, outcome⟩ := m
  cases outcome with
  | error g => rfl
  | ok a =>
      show events ++ (f a).events = events
      rw [hf a, List.append_nil]

end Run

/-! ## Files -/

section Files

variable {w : World}

theorem World.emits_readText (path : Text) : (w.readText path).Emits Event.OfFile := by
  refine Run.Emits.bind ?_ fun entry => ?_
  · unfold World.openFile
    split
    · exact Run.emits_fail _
    · exact (Run.emits_emit (.read path)).bind fun _ => Run.emits_pure _
  · cases entry with
    | content bytes => exact Run.emits_pure _
    | failure e => exact Run.emits_pure _

/-- Files are read and warned about, apart from what is done with their texts. -/
theorem emits_collectFiles (command : Text) {use : Text → Run Text}
    (huse : ∀ text, (use text).Emits Event.OfFile) (paths : List Text) :
    (collectFiles w command use paths).Emits Event.OfFile := by
  induction paths with
  | nil => exact Run.emits_pure _
  | cons path paths ih =>
      refine (World.emits_readText path).bind fun found => ?_
      cases found with
      | ok text => exact (huse text).bind fun _ => ih.bind fun _ => Run.emits_pure _
      | error e => exact (Run.emits_emit (.warned _)).bind fun _ => ih

theorem emits_countFiles (paths : List Text) : (countFiles w paths).Emits Event.OfFile := by
  induction paths with
  | nil => exact Run.emits_pure _
  | cons path paths ih =>
      refine (World.emits_readText path).bind fun found => ?_
      cases found with
      | ok text => exact ih.bind fun _ => Run.emits_pure _
      | error e => exact Run.emits_report _

end Files

/-! ## Commands -/

section Commands

variable {w : World} {args : List Text} {input : Text}

theorem emits_runCat : (runCat w args input).Emits Event.OfFile := by
  unfold runCat
  split
  · exact Run.emits_pure _
  · exact emits_collectFiles _ (fun _ => Run.emits_pure _) args

theorem emits_runWc : (runWc w args input).Emits Event.OfFile := by
  unfold runWc
  split
  · exact Run.emits_pure _
  · exact (emits_countFiles args).bind fun _ => Run.emits_pure _

/-- The arguments and the pattern are checked without any effect. -/
theorem emits_runGrep : (runGrep w args input).Emits Event.OfFile := by
  have hoptions : (grepOptions args).Emits Event.OfFile := by
    unfold grepOptions
    split
    · exact Run.emits_pure _
    · exact Run.emits_report _
    · exact Run.emits_fail _
  have hregex : ∀ o, (grepRegex o).Emits Event.OfFile := by
    intro o
    unfold grepRegex
    split
    · exact Run.emits_pure _
    · exact Run.emits_fail _
    · exact Run.emits_report _
  have hselect : ∀ r o text, (selectFrom r o text).Emits Event.OfFile := by
    intro r o text
    unfold selectFrom
    split
    · exact Run.emits_pure _
    · exact Run.emits_fail _
  refine hoptions.bind fun o => (hregex o).bind fun r => ?_
  split
  · exact hselect r o input
  · exact emits_collectFiles _ (hselect r o) o.files

theorem World.emits_launch (program : Text) :
    (w.launch program args input).Emits (Event.OfLaunch program args input) := by
  refine (Run.emits_emit .launching).bind fun _ => ?_
  split
  · exact Run.emits_pure _
  · refine (Run.emits_emit .launched).bind fun _ => ?_
    split
    · exact Run.emits_pure _
    · exact Run.emits_fail _
    · exact (Run.emits_emit (.exited _)).bind fun _ => Run.emits_pure _

theorem emits_runExternal (program : Text) :
    (runExternal w program args input).Emits (Event.OfLaunch program args input) := by
  refine (World.emits_launch program).bind fun launched => ?_
  cases launched with
  | error e => exact Run.emits_fail _
  | ok r =>
      show Run.Emits _ (if r.status = 0 then _ else _)
      split
      · exact Run.emits_pure _
      · exact Run.emits_fail _

/-- **A command has the effects of its kind** and no others. -/
theorem Command.emits_run (c : Command) : (c.run w input).Emits (c.MayEmit input) := by
  cases c with
  | external program args => exact emits_runExternal program
  | builtin b args =>
      cases b with
      | echo => exact Run.emits_pure _
      | cat => exact emits_runCat
      | wc => exact emits_runWc
      | grep => exact emits_runGrep
      | pwd => exact Run.emits_pure _
      | exit => exact Run.emits_pure _

/-- No command prints. -/
theorem Command.MayEmit.printed?_eq_none {c : Command} {e : Event} (h : c.MayEmit input e) :
    e.printed? = none := by
  cases c with
  | builtin b args => cases h <;> rfl
  | external program args => cases h <;> rfl

/-- A program is launched once, unless a null character stands in its name or in an argument. -/
theorem filterMap_launched?_runExternal (program : Text) :
    (runExternal w program args input).events.filterMap Event.launched? =
      (Command.external program args).launches input := by
  have hevents : (runExternal w program args input).events =
      (w.launch program args input).events := by
    refine Run.events_bind_of_no_effect fun launched => ?_
    cases launched with
    | error e => rfl
    | ok r =>
        show Run.events (if r.status = 0 then _ else _) = []
        split <;> rfl
  have hlaunches : (Command.external program args).launches input =
      if (program :: args).any holdsNull then [] else [(program :: args, input)] := rfl
  rw [hevents, World.launch, hlaunches]
  by_cases hnull : (program :: args).any holdsNull = true
  · simp only [hnull, if_true]
    rfl
  · simp only [hnull, Bool.false_eq_true, if_false]
    -- whatever comes of the launch comes after it
    cases w.program program args (Utf8.encode input) <;> rfl

/-- **What a command launches** is itself, with its own words and with what it reads. -/
theorem Command.filterMap_launched?_run (c : Command) :
    (c.run w input).events.filterMap Event.launched? = c.launches input := by
  cases c with
  | external program args => exact filterMap_launched?_runExternal program
  | builtin b args =>
      show _ = []
      rw [List.filterMap_eq_nil_iff]
      intro e he
      have hfile : Event.OfFile e := emits_run (.builtin b args) e he
      cases hfile <;> rfl

end Commands

/-! ## Pipelines -/

theorem emits_runCommands {w : World} {input : Text} {cs : List Command} :
    (runCommands w input cs).Emits fun e => e.printed? = none := by
  induction cs generalizing input with
  | nil => exact Run.emits_pure _
  | cons c cs ih =>
      have hlog : (Run.log (.running c)).Emits fun e => e.printed? = none := Run.emits_emit rfl
      have hrun : (c.run w input).Emits fun e => e.printed? = none :=
        c.emits_run.mono fun e he => he.printed?_eq_none
      exact hlog.bind fun _ => hrun.bind fun _ => ih

/-- No pipeline prints. -/
theorem Pipeline.emits_run (w : World) (p : Pipeline) :
    (p.run w).Emits fun e => e.printed? = none :=
  emits_runCommands

end TextShell
