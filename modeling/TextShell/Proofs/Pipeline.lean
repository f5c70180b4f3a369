import Mathlib.Data.List.Chain
import TextShell.Proofs.Effects

/-!
# How pipelines run

The commands of a pipeline run in order, each on what the one before it wrote, and nothing follows
the first one that fails.  Both are said of the whole trace of a run and not only of its result, so
that a command that looked at a file too early, or after a failure, would show.

A pipeline that is prolonged does the same up to the place where it was prolonged
(`runCommands_append`).  And every run goes stage by stage (`Pipeline.RunsAs`): the stages that are
reached are known from the results alone, and the effects of the run are theirs, in their order.

## Main Definitions

* `Pipeline.append` — a pipeline and the commands of another one after it
* `Stage` — a command with what it reads
* `reached` — the stages of some commands that are reached
* `Pipeline.RunsAs` — a run of a pipeline as stages
-/

namespace TextShell

/-- A pipeline and the commands of another one after it. -/
def Pipeline.append (p q : Pipeline) : Pipeline :=
  ⟨p.head, p.tail ++ q.toList⟩

/-- A command with what it reads. -/
structure Stage where
  command : Command
  input : Text

/-- A stage is recorded before its command runs. -/
def Stage.run (w : World) (s : Stage) : Run Text := do
  Run.log (.running s.command)
  s.command.run w s.input

/-- The stages of some commands that are reached, the last one with or without success. -/
def reached (w : World) (input : Text) : List Command → List Stage
  | [] => []
  | c :: cs =>
      match (Stage.run w ⟨c, input⟩).outcome with
      | .ok output => ⟨c, input⟩ :: reached w output cs
      | .error _ => [⟨c, input⟩]

/-- **A run of a pipeline as stages.** -/
structure Pipeline.RunsAs (w : World) (p : Pipeline) (stages : List Stage) : Prop where
  /-- The commands of the stages are the first ones of the pipeline. -/
  commands : stages.map Stage.command <+: p.toList
  /-- The first stage reads nothing. -/
  first : stages.head? = some ⟨p.head, []⟩
  /-- Each other stage reads what the one before it wrote, which has not failed. -/
  feeds : stages.IsChain fun s next => (s.run w).outcome = .ok next.input
  /-- The pipeline ends as its last stage does. -/
  last : ∀ s ∈ stages.getLast?, (s.run w).outcome = (p.run w).outcome
  /-- No command is left out unless the pipeline fails. -/
  complete : ∀ output, (p.run w).outcome = .ok output → stages.map Stage.command = p.toList
  /-- The effects are those of the stages, in order. -/
  events : (p.run w).events = stages.flatMap fun s => (s.run w).events
  /-- A stage launches its own words on its own input, or nothing. -/
  launches : ∀ s ∈ stages,
    (s.run w).events.filterMap Event.launched? = s.command.launches s.input

variable {w : World} {input : Text} {c : Command} {cs : List Command}

@[simp] theorem Pipeline.toList_append (p q : Pipeline) :
    (p.append q).toList = p.toList ++ q.toList := rfl

/-! ## Stages -/

/-- The record of a stage is no launch. -/
theorem Stage.filterMap_launched?_run (s : Stage) :
    (s.run w).events.filterMap Event.launched? = s.command.launches s.input :=
  s.command.filterMap_launched?_run

/-- Commands run stage by stage. -/
theorem runCommands_cons :
    runCommands w input (c :: cs) = (Stage.mk c input).run w >>= fun t => runCommands w t cs :=
  (Run.bind_assoc (Run.log (.running c)) (fun _ => c.run w input)
    fun t => runCommands w t cs).symm

/-- **Commands that are prolonged** run as before, and then the others on what they wrote. -/
theorem runCommands_append (ds : List Command) :
    runCommands w input (cs ++ ds) = runCommands w input cs >>= fun t => runCommands w t ds := by
  induction cs generalizing input with
  | nil => exact (Run.pure_bind input fun t => runCommands w t ds).symm
  | cons c cs ih =>
      calc runCommands w input (c :: cs ++ ds)
          = (Stage.mk c input).run w >>= fun t => runCommands w t (cs ++ ds) := runCommands_cons
        _ = (Stage.mk c input).run w >>= fun t => runCommands w t cs >>= fun u =>
              runCommands w u ds := by simp only [ih]
        _ = runCommands w input (c :: cs) >>= fun u => runCommands w u ds := by
              rw [runCommands_cons, Run.bind_assoc]

/-- **A pipeline fails at the first command that does**, which reads what the ones before it
wrote. -/
theorem outcome_runCommands_eq_error_iff {f : Failure} :
    (runCommands w input cs).outcome = .error f ↔
      ∃ before c after output, cs = before ++ c :: after ∧
        (runCommands w input before).outcome = .ok output ∧
        (c.run w output).outcome = .error f := by
  constructor
  · intro h
    induction cs generalizing input with
    | nil => cases h
    | cons c cs ih =>
        rw [runCommands_cons, Run.outcome_bind_eq_error_iff] at h
        rcases h with hc | ⟨t, ht, hrest⟩
        · exact ⟨[], c, cs, input, rfl, rfl, hc⟩
        · obtain ⟨before, c', after, output, rfl, hbefore, hc'⟩ := ih hrest
          refine ⟨c :: before, c', after, output, rfl, ?_, hc'⟩
          rw [runCommands_cons, Run.bind_of_ok ht]
          exact hbefore
  · rintro ⟨before, c, after, output, rfl, hbefore, hc⟩
    have hstage : ((Stage.mk c output).run w).outcome = .error f := hc
    rw [runCommands_append, Run.bind_of_ok hbefore, runCommands_cons, Run.bind_of_error hstage]

/-! ## The stages that are reached -/

/-- The first stage reads the input. -/
theorem head?_reached_cons : (reached w input (c :: cs)).head? = some ⟨c, input⟩ := by
  rw [reached]
  split <;> rfl

/-- Whatever stage is the first, it reads the input. -/
theorem input_eq_of_mem_head?_reached {s : Stage} (h : s ∈ (reached w input cs).head?) :
    s.input = input := by
  cases cs with
  | nil => cases h
  | cons c cs =>
      rw [head?_reached_cons] at h
      obtain rfl : _ = s := Option.some.inj h
      rfl

theorem map_command_reached_prefix (w : World) (input : Text) (cs : List Command) :
    (reached w input cs).map Stage.command <+: cs := by
  fun_induction reached w input cs with
  | case1 input => exact List.nil_prefix
  | case2 input c cs output h ih => exact (List.prefix_cons_inj c).mpr ih
  | case3 input c cs f h => exact (List.prefix_cons_inj c).mpr List.nil_prefix

/-- Each stage reads what the one before it wrote. -/
theorem isChain_reached (w : World) (input : Text) (cs : List Command) :
    (reached w input cs).IsChain fun s next => (s.run w).outcome = .ok next.input := by
  fun_induction reached w input cs with
  | case1 input => exact .nil
  | case2 input c cs output h ih =>
      refine ih.cons fun next hnext => ?_
      rw [h, input_eq_of_mem_head?_reached hnext]
  | case3 input c cs f h => exact .singleton _

/-- **The effects of commands** are those of the stages that are reached, in order. -/
theorem events_runCommands_eq_flatMap (w : World) (input : Text) (cs : List Command) :
    (runCommands w input cs).events = (reached w input cs).flatMap fun s => (s.run w).events := by
  fun_induction reached w input cs with
  | case1 input => rfl
  | case2 input c cs output h ih => rw [runCommands_cons, Run.bind_of_ok h, ih, List.flatMap_cons]
  | case3 input c cs f h => rw [runCommands_cons, Run.bind_of_error h, List.flatMap_singleton]

/-- Commands that succeed are all reached. -/
theorem map_command_reached_of_ok {output : Text}
    (hok : (runCommands w input cs).outcome = .ok output) :
    (reached w input cs).map Stage.command = cs := by
  fun_induction reached w input cs with
  | case1 input => rfl
  | case2 input c cs t h ih =>
      rw [runCommands_cons, Run.bind_of_ok h] at hok
      rw [List.map_cons, ih hok]
  | case3 input c cs f h =>
      rw [runCommands_cons, Run.bind_of_error h] at hok
      cases hok

/-- Commands end as the last stage that is reached. -/
theorem outcome_of_mem_getLast?_reached {s : Stage} (hs : s ∈ (reached w input cs).getLast?) :
    (s.run w).outcome = (runCommands w input cs).outcome := by
  fun_induction reached w input cs with
  | case1 input => cases hs
  | case2 input c cs output h ih =>
      rw [runCommands_cons, Run.bind_of_ok h]
      cases cs with
      | nil =>
          obtain rfl : ⟨c, input⟩ = s := Option.some.inj hs
          exact h
      | cons c' cs =>
          obtain ⟨rest, hrest⟩ := List.head?_eq_some_iff.mp (head?_reached_cons (c := c'))
          rw [hrest, List.getLast?_cons_cons, ← hrest] at hs
          exact ih hs
  | case3 input c cs f h =>
      obtain rfl : ⟨c, input⟩ = s := Option.some.inj hs
      rw [runCommands_cons, Run.bind_of_error h, h]

/-- A pipeline runs as the stages that are reached. -/
theorem Pipeline.runsAs_reached (w : World) (p : Pipeline) : p.RunsAs w (reached w [] p.toList) where
  commands := map_command_reached_prefix w [] p.toList
  first := head?_reached_cons
  feeds := isChain_reached w [] p.toList
  last _ hs := outcome_of_mem_getLast?_reached hs
  complete _ hok := map_command_reached_of_ok hok
  events := events_runCommands_eq_flatMap w [] p.toList
  launches s _ := s.filterMap_launched?_run

/-- **Pipelines run in order and stop at the first failure.**  If a pipeline fails, a longer one
fails alike, with the same effects.  If it succeeds, a longer one has its effects, followed by those
of the other commands on what it wrote, and ends as these do.

And the run of a pipeline consists of stages, the first of which reads nothing and each other one
what the one before it wrote; each program is launched with the words of its own stage and reads
what its stage reads. -/
theorem Pipeline.runs_in_order (w : World) (p q : Pipeline) :
    (∀ f, (p.run w).outcome = .error f → (p.append q).run w = p.run w) ∧
    (∀ output, (p.run w).outcome = .ok output →
      ((p.append q).run w).events =
        (p.run w).events ++ (runCommands w output q.toList).events ∧
      ((p.append q).run w).outcome = (runCommands w output q.toList).outcome) ∧
    ∃ stages, p.RunsAs w stages := by
  have happend : (p.append q).run w = p.run w >>= fun t => runCommands w t q.toList := by
    rw [run, toList_append, runCommands_append]
    rfl
  refine ⟨fun f hf => ?_, fun output hok => ?_, reached w [] p.toList, p.runsAs_reached w⟩
  · rw [happend, Run.bind_of_error hf, ← hf]
  · rw [happend, Run.bind_of_ok hok]
    exact ⟨rfl, rfl⟩

end TextShell
