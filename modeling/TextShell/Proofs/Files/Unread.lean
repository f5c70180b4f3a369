import TextShell.Proofs.Script

/-!
# Files that are not read

What a command, a pipeline, a line or the statements of a script do depends on a file only if they
read it: in two worlds that differ under one path at most (`World.AgreeBut`) a run does the same
unless it opens that path.

This is said of everything that runs in a world (`DependsOnReads`), and it passes from the parts of a
run to the whole (`DependsOnReads.bind`).  So opening a file is the only place where the two worlds
have to be looked at, apart from what they share.

## Main Definitions

* `World.AgreeBut` — two worlds that differ under one path at most
* `DependsOnReads` — a run that depends on the files that it reads and on no others
-/

namespace TextShell

/-- **Two worlds that differ under one path at most.** -/
structure World.AgreeBut (path : Text) (w w' : World) : Prop where
  /-- The same stands under every other path. -/
  file : ∀ p, p ≠ path → w'.file p = w.file p
  /-- The programs are the same. -/
  program : w'.program = w.program
  /-- The working directory is the same. -/
  workingDirectory : w'.workingDirectory = w.workingDirectory

/-- **A run that depends on the files that it reads** and on no others. -/
def DependsOnReads {α : Type} (r : World → Run α) : Prop :=
  ∀ path w w', World.AgreeBut path w w' → .read path ∉ (r w).events → r w' = r w

/-! ## Runs -/

section Runs

variable {α β : Type}

/-- A run that looks at nothing. -/
theorem dependsOnReads_const (r : Run α) : DependsOnReads fun _ => r :=
  fun _ _ _ _ _ => rfl

/-- **What follows a run** depends on no other files if neither does. -/
theorem DependsOnReads.bind {m : World → Run α} {f : α → World → Run β} (hm : DependsOnReads m)
    (hf : ∀ a, DependsOnReads (f a)) : DependsOnReads fun w => m w >>= fun a => f a w := by
  intro path w w' hagree hread
  dsimp only at hread ⊢
  -- what follows depends on what is found first, which must be the same before it can be compared
  cases hw : (m w).outcome with
  | error e =>
      rw [Run.bind_of_error hw] at hread
      have hsame : m w' = m w := hm path w w' hagree hread
      rw [hsame, Run.bind_of_error hw, Run.bind_of_error hw]
  | ok a =>
      rw [Run.bind_of_ok hw, List.mem_append, not_or] at hread
      have hsame : m w' = m w := hm path w w' hagree hread.1
      have hnext : f a w' = f a w := hf a path w w' hagree hread.2
      rw [hsame, Run.bind_of_ok hw, Run.bind_of_ok hw, hnext]

end Runs

/-! ## Commands -/

section Commands

/-- **Opening a file** is where the worlds are looked at. -/
theorem World.dependsOnReads_openFile (path : Text) :
    DependsOnReads fun w => w.openFile path := by
  intro changed w w' hagree hread
  cases hnull : holdsNull path with
  | true => simp only [openFile_of_null hnull]
  | false =>
      simp only [openFile_of_not_null hnull] at hread ⊢
      -- the file that was opened is among the effects, so it is not the one that differs
      have hne : path ≠ changed := by
        rintro rfl
        exact hread List.mem_cons_self
      simp only [entry, hagree.file path hne]

theorem World.dependsOnReads_readText (path : Text) : DependsOnReads fun w => w.readText path :=
  (dependsOnReads_openFile path).bind fun _ => dependsOnReads_const _

/-- A launch looks at no file. -/
theorem World.dependsOnReads_launch (program : Text) (args : List Text) (input : Text) :
    DependsOnReads fun w => w.launch program args input := by
  intro path w w' hagree _
  simp only [launch, hagree.program]

theorem dependsOnReads_collectFiles (command : Text) (use : Text → Run Text) (paths : List Text) :
    DependsOnReads fun w => collectFiles w command use paths := by
  induction paths with
  | nil => exact dependsOnReads_const _
  | cons path paths ih =>
      refine (World.dependsOnReads_readText path).bind fun found => ?_
      cases found with
      | ok text =>
          exact (dependsOnReads_const (use text)).bind fun _ => ih.bind fun _ =>
            dependsOnReads_const _
      | error e => exact (dependsOnReads_const (warnAbout command path e)).bind fun _ => ih

theorem dependsOnReads_countFiles (paths : List Text) :
    DependsOnReads fun w => countFiles w paths := by
  induction paths with
  | nil => exact dependsOnReads_const _
  | cons path paths ih =>
      refine (World.dependsOnReads_readText path).bind fun found => ?_
      cases found with
      | ok text => exact ih.bind fun _ => dependsOnReads_const _
      | error e => exact dependsOnReads_const _

variable (args : List Text) (input : Text)

theorem dependsOnReads_runCat : DependsOnReads fun w => runCat w args input := by
  unfold runCat
  cases args.isEmpty with
  | true => exact dependsOnReads_const _
  | false => exact dependsOnReads_collectFiles _ _ args

theorem dependsOnReads_runWc : DependsOnReads fun w => runWc w args input := by
  unfold runWc
  cases args.isEmpty with
  | true => exact dependsOnReads_const _
  | false => exact (dependsOnReads_countFiles args).bind fun _ => dependsOnReads_const _

/-- The arguments and the pattern are checked without a look at any file. -/
theorem dependsOnReads_runGrep : DependsOnReads fun w => runGrep w args input := by
  refine (dependsOnReads_const (grepOptions args)).bind fun o =>
    (dependsOnReads_const (grepRegex o)).bind fun r => ?_
  cases o.files.isEmpty with
  | true => exact dependsOnReads_const _
  | false => exact dependsOnReads_collectFiles _ _ o.files

theorem dependsOnReads_runExternal (program : Text) :
    DependsOnReads fun w => runExternal w program args input :=
  (World.dependsOnReads_launch program args input).bind fun _ => dependsOnReads_const _

variable {args}

/-- **A command depends on the files that it reads** and on no others. -/
theorem Command.dependsOnReads_run (c : Command) : DependsOnReads fun w => c.run w input := by
  cases c with
  | external program args => exact dependsOnReads_runExternal args input program
  | builtin b args =>
      cases b with
      | echo => exact dependsOnReads_const _
      | cat => exact dependsOnReads_runCat args input
      | wc => exact dependsOnReads_runWc args input
      | grep => exact dependsOnReads_runGrep args input
      | exit => exact dependsOnReads_const _
      | pwd =>
          intro path w w' hagree _
          show (pure w'.workingDirectory : Run Text) = pure w.workingDirectory
          rw [hagree.workingDirectory]

theorem dependsOnReads_runCommands (cs : List Command) :
    DependsOnReads fun w => runCommands w input cs := by
  induction cs generalizing input with
  | nil => exact dependsOnReads_const _
  | cons c cs ih =>
      exact (dependsOnReads_const (Run.log (.running c))).bind fun _ =>
        (c.dependsOnReads_run input).bind ih

theorem Pipeline.dependsOnReads_run (p : Pipeline) : DependsOnReads fun w => p.run w :=
  dependsOnReads_runCommands [] p.toList

end Commands

/-! ## Lines and scripts -/

/-- A line depends on the files that it reads. -/
theorem Session.dependsOnReads_execute (vars : Variables) (line : Text) :
    DependsOnReads fun w => (execute w vars line).run := by
  cases hline : Statement.ofLine vars.lookup line with
  | none =>
      simp only [execute_of_none hline]
      exact dependsOnReads_const _
  | some s =>
      cases s with
      | assignment name value =>
          simp only [execute_of_assignment hline]
          exact dependsOnReads_const _
      | pipeline p =>
          simp only [execute_of_pipeline hline]
          exact (dependsOnReads_const (Run.log _)).bind fun _ =>
            p.dependsOnReads_run.bind fun _ => dependsOnReads_const _

/-- A line that does not read a file does the same whatever stands there. -/
theorem Session.execute_congr {path : Text} {w w' : World} (h : w.AgreeBut path w')
    {vars : Variables} {line : Text} (hread : .read path ∉ (execute w vars line).events) :
    execute w' vars line = execute w vars line := by
  have hrun : (execute w' vars line).run = (execute w vars line).run :=
    dependsOnReads_execute vars line path w w' h hread
  have hvars : (execute w' vars line).vars = (execute w vars line).vars := by
    rw [vars_execute, vars_execute]
  show (⟨(execute w' vars line).run, (execute w' vars line).vars⟩ : Turn Status) =
    ⟨(execute w vars line).run, (execute w vars line).vars⟩
  rw [hrun, hvars]

/-- **Statements that do not read a file** do the same whatever stands there. -/
theorem Script.runLines_congr {path : Text} {w w' : World} (h : w.AgreeBut path w')
    {vars : Variables} {lines : List (Nat × Text)}
    (hread : .read path ∉ (runLines w vars lines).events) :
    runLines w' vars lines = runLines w vars lines := by
  induction lines generalizing vars with
  | nil => rfl
  | cons l rest ih =>
      -- the line stops in both worlds or in neither, and leaves the same variables to the rest
      by_cases hcontinue : (Session.execute w vars l.2).outcome = .ok .continue
      · rw [runLines_cons_of_continue hcontinue, Turn.events, List.mem_append, not_or] at hread
        have hsame := Session.execute_congr h hread.1
        rw [runLines_cons_of_continue hcontinue, runLines_cons_of_continue (hsame ▸ hcontinue),
          hsame, ih hread.2]
      · obtain ⟨n, line⟩ := l
        rw [runLines_cons_of_stops hcontinue, Turn.events, List.mem_append, not_or] at hread
        have hsame := Session.execute_congr h hread.1
        rw [runLines_cons_of_stops hcontinue, runLines_cons_of_stops (hsame ▸ hcontinue), hsame]

end TextShell
