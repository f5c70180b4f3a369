import TextShell.Proofs.Files
import TextShell.Proofs.Pipeline

/-!
# Laws of pipelines

Two laws say what a stage does to the pipeline that it stands in.  `cat` without a file hands on
what it reads, so that it makes no difference where it stands and whether it is there, the records
of the log apart.  A stage that does not look at what it reads cuts its pipeline: whatever the
commands before it write, the rest runs as if it stood alone, and of the commands before it only
the effects remain.

Both follow once the pipeline is taken apart in front of the stage (`runCommands_append`).  For the
first law the log is left out of the run (`Run.unlogged`), which may be done part by part
(`Run.unlogged_bind`); for the second the commands that do not look at their input are listed
(`Command.IgnoresInput`).

## Main Definitions

* `Run.unlogged` — a run without the records of its log
* `Command.IgnoresInput` — the commands that do not look at what they read
-/

namespace TextShell

/-- The run without the records of its log: what is read, launched, warned about and printed, in
order, and the outcome. -/
def Run.unlogged {α : Type} (r : Run α) : Run α :=
  ⟨r.events.filter fun e => e.logged?.isNone, r.outcome⟩

/-- **The commands that do not look at what they read.** -/
inductive Command.IgnoresInput : Command → Prop
  | echo (args : List Text) : IgnoresInput (.builtin .echo args)
  | pwd (args : List Text) : IgnoresInput (.builtin .pwd args)
  | exit (args : List Text) : IgnoresInput (.builtin .exit args)
  | cat (path : Text) (paths : List Text) : IgnoresInput (.builtin .cat (path :: paths))
  | wc (path : Text) (paths : List Text) : IgnoresInput (.builtin .wc (path :: paths))
  /-- The arguments name a file. -/
  | grepFiles {args : List Text} {o : GrepOptions} (h : GrepOptions.ofArguments args = .ok o)
      (hfiles : o.files ≠ []) : IgnoresInput (.builtin .grep args)
  /-- There is a mistake in the arguments. -/
  | grepMistake {args : List Text} {e : GrepArgumentError}
      (h : GrepOptions.ofArguments args = .error e) : IgnoresInput (.builtin .grep args)

variable {w : World}

/-! ## Runs without their log -/

namespace Run

variable {α β : Type}

theorem unlogged_bind (m : Run α) (f : α → Run β) :
    (m >>= f).unlogged = m.unlogged >>= fun a => (f a).unlogged := by
  obtain ⟨events, outcome⟩ := m
  cases outcome with
  | error e => rfl
  | ok a => simp [unlogged, bind, andThen]

/-- A record does not show. -/
theorem unlogged_log_bind (r : Record) (f : Unit → Run α) :
    (log r >>= f).unlogged = (f ()).unlogged := rfl

end Run

/-- **`cat` without a file hands on what it reads.** -/
theorem unlogged_runCommands_cat_cons (input : Text) (cs : List Command) :
    (runCommands w input (.builtin .cat [] :: cs)).unlogged =
      (runCommands w input cs).unlogged := by
  have hrun : (Command.builtin .cat []).run w input = pure input := rfl
  rw [runCommands, hrun, Run.pure_bind, Run.unlogged_log_bind]

/-- It makes no difference anywhere in a pipeline. -/
theorem unlogged_runCommands_cat (input : Text) (p q : List Command) :
    (runCommands w input (p ++ .builtin .cat [] :: q)).unlogged =
      (runCommands w input (p ++ q)).unlogged := by
  rw [runCommands_append, runCommands_append, Run.unlogged_bind, Run.unlogged_bind]
  simp only [unlogged_runCommands_cat_cons]

/-! ## Stages that cut a pipeline -/

/-- A command that ignores its input does the same on every input. -/
theorem Command.IgnoresInput.run_eq {c : Command} (h : c.IgnoresInput) (w : World)
    (input input' : Text) : c.run w input = c.run w input' := by
  cases h with
  | echo | pwd | exit | cat | wc => rfl
  | @grepFiles args o h hfiles =>
      have hany : o.files.isEmpty = false := by simpa using hfiles
      simp only [run, runGrep, grepOptions_of_ok h, Run.pure_bind, hany, Bool.false_eq_true,
        if_false]
  | @grepMistake args e h =>
      obtain ⟨f, hf⟩ := exists_runGrep_eq_fail_of_arguments h
      exact (hf w input).trans (hf w input').symm

/-- What follows commands that succeed does not depend on them if its first command ignores its
input. -/
theorem runCommands_append_cons_of_ignoresInput {c : Command} (h : c.IgnoresInput)
    {input output : Text} {p : List Command} (hp : (runCommands w input p).outcome = .ok output)
    (input' : Text) (q : List Command) :
    runCommands w input (p ++ c :: q) =
      ⟨(runCommands w input p).events ++ (runCommands w input' (c :: q)).events,
        (runCommands w input' (c :: q)).outcome⟩ := by
  have hcut : runCommands w output (c :: q) = runCommands w input' (c :: q) := by
    rw [runCommands, runCommands, h.run_eq w output input']
  rw [runCommands_append, Run.bind_of_ok hp, hcut]

/-! ## Pipelines -/

theorem Pipeline.exists_ofList?_eq_some {cs : List Command} (h : cs ≠ []) :
    ∃ p : Pipeline, ofList? cs = some p ∧ p.run w = runCommands w [] cs := by
  obtain ⟨c, cs, rfl⟩ := List.exists_cons_of_ne_nil h
  exact ⟨⟨c, cs⟩, rfl, rfl⟩

/-- **Two laws of pipelines.**  A pipeline with `cat` put in anywhere has the same outcome and, the
log apart, the same effects: the same files are read, the same programs launched on the same input
and the same warnings given, in the same order.

A command that ignores its input cuts the pipeline.  If the commands before it succeed, whatever
they write, the pipeline has their effects, followed by those of the pipeline that begins with this
command, and ends as that one does. -/
theorem Pipeline.cat_neutral_and_ignoresInput_cuts (w : World) (p q : List Command) :
    (p ++ q ≠ [] → ∃ before after : Pipeline, ofList? (p ++ q) = some before ∧
      ofList? (p ++ .builtin .cat [] :: q) = some after ∧
      (after.run w).unlogged = (before.run w).unlogged) ∧
    (∀ c : Command, c.IgnoresInput → ∃ whole rest : Pipeline,
      ofList? (p ++ c :: q) = some whole ∧ ofList? (c :: q) = some rest ∧
      ∀ output, (runCommands w [] p).outcome = .ok output →
        whole.run w =
          ⟨(runCommands w [] p).events ++ (rest.run w).events, (rest.run w).outcome⟩) := by
  have hne : ∀ c : Command, p ++ c :: q ≠ [] := by simp
  constructor
  · intro hpq
    obtain ⟨before, hbefore, hrun⟩ := exists_ofList?_eq_some (w := w) hpq
    obtain ⟨after, hafter, hrun'⟩ := exists_ofList?_eq_some (w := w) (hne (.builtin .cat []))
    refine ⟨before, after, hbefore, hafter, ?_⟩
    rw [hrun, hrun']
    exact unlogged_runCommands_cat [] p q
  · intro c hc
    obtain ⟨whole, hwhole, hrun⟩ := exists_ofList?_eq_some (w := w) (hne c)
    obtain ⟨rest, hrest, hrun'⟩ := exists_ofList?_eq_some (w := w) (List.cons_ne_nil c q)
    refine ⟨whole, rest, hwhole, hrest, fun output hp => ?_⟩
    rw [hrun, hrun']
    exact runCommands_append_cons_of_ignoresInput hc hp [] q

/-- A count of a file that is not there, after a command whose output nobody reads. -/
theorem Pipeline.cat_neutral_and_ignoresInput_cuts_missing_file :
    let w : World := ⟨fun _ => none, fun _ _ _ => .interrupted, ['/']⟩
    let p : List Command := [.builtin .echo [['a', 'b']]]
    let c : Command := .builtin .cat [['f']]
    let q : List Command := [.builtin .wc []]
    (p ++ q ≠ [] ∧ c.IgnoresInput ∧ (runCommands w [] p).outcome = .ok ['a', 'b']) ∧
      (∃ before after : Pipeline, ofList? (p ++ q) = some before ∧
        ofList? (p ++ .builtin .cat [] :: q) = some after ∧
        (after.run w).unlogged = (before.run w).unlogged) ∧
      ∃ whole : Pipeline, ofList? (p ++ c :: q) = some whole ∧
        (whole.run w).outcome = .ok ['1', ' ', '0', ' ', '0'] := by
  intro w p c q
  have hpq : p ++ q ≠ [] := List.cons_ne_nil _ _
  have hc : c.IgnoresInput := .cat ['f'] []
  have hp : (runCommands w [] p).outcome = .ok ['a', 'b'] := rfl
  obtain ⟨hneutral, hcuts⟩ := cat_neutral_and_ignoresInput_cuts w p q
  obtain ⟨whole, rest, hwhole, hrest, hrun⟩ := hcuts c hc
  refine ⟨⟨hpq, hc, hp⟩, hneutral hpq, whole, hwhole, ?_⟩
  obtain rfl : ⟨c, q⟩ = rest := Option.some.inj hrest
  rw [hrun _ hp]
  rfl

end TextShell
