import TextShell.Proofs.Text.Utf8.Lossy
import TextShell.Proofs.World

/-!
# What becomes of a program

A program is launched with the words of its command, and what the command reads is its standard
input.  Then it cannot be launched (`World.CannotLaunch`), or it runs to its end (`World.Ends`), or
the user interrupts it.  The first is reported with the name of the program.  In the second case the
exit status decides: with status zero the command writes what the program wrote to its standard
output, and with any other one that is dropped and an error is reported in its place.

The message of this error is the first line of what the program wrote to its standard error output,
or the status if it wrote nothing there (`ExitReport`).  A first line is there as soon as anything was
written, but it may be empty: the message of a program that begins its complaint with a line end says
nothing (`ExitReport.eq_nil_iff`).

## Main Definitions

* `World.CannotLaunch`, `World.Ends` — what becomes of a launch
* `IsFirstLine` — the first line of a text
* `ExitReport` — what is said about a program that failed
* `Judges` — what a command makes of its program
-/

namespace TextShell

/-- **The program cannot be launched**: a null character is in its name or in an argument, or the
system refuses. -/
inductive World.CannotLaunch (w : World) (program : Text) (args : List Text) (input : Text) : Prop
  | null {t : Text} : t ∈ program :: args → holdsNull t = true → CannotLaunch w program args input
  | refused {reason : Text} : w.program program args (Utf8.encode input) = .refused reason →
      CannotLaunch w program args input

/-- **The program runs to its end** and leaves something behind. -/
structure World.Ends (w : World) (program : Text) (args : List Text) (input : Text)
    (r : ProgramResult) : Prop where
  /-- No null character is in the way. -/
  notNull : ∀ t ∈ program :: args, holdsNull t = false
  /-- The program comes to its end. -/
  finished : w.program program args (Utf8.encode input) = .finished r

/-- The effects of a program that runs to its end. -/
def launchEvents (program : Text) (args : List Text) (input : Text) (status : Int) : List Event :=
  [.logged (.launching (program :: args)), .launched (program :: args) input,
    .logged (.exited program status)]

/-- **The first line of a text**: no line end is in it, and one comes after it unless the text ends
there. -/
def IsFirstLine (t line : Text) : Prop :=
  (∀ c ∈ line, Text.isLineEnd c = false) ∧
    ∃ rest, t = line ++ rest ∧ ∀ c ∈ rest.head?, Text.isLineEnd c = true

/-- **What is said about a program that failed.** -/
inductive ExitReport (program : Text) (r : ProgramResult) : Text → Prop
  /-- The first line of what it wrote to its standard error output. -/
  | firstLine {line : Text} : r.errors ≠ [] → IsFirstLine (Utf8.decodeLossy r.errors) line →
      ExitReport program r line
  /-- Its status, if it wrote nothing there. -/
  | status : r.errors = [] →
      ExitReport program r (program ++ ": exit status " ++ Text.ofInt r.status)

/-- **What a command makes of its program.** -/
inductive Judges (w : World) (program : Text) (args : List Text) (input : Text) :
    Except Failure Text → Prop
  | notFound : w.CannotLaunch program args input →
      Judges w program args input (.error (.shell (.commandNotFound program)))
  | output {r : ProgramResult} : w.Ends program args input r → r.status = 0 →
      Judges w program args input (.ok (Utf8.decodeLossy r.output))
  | failed {r : ProgramResult} {message : Text} : w.Ends program args input r → r.status ≠ 0 →
      ExitReport program r message →
      Judges w program args input (.error (.shell (.execution message (some r.status))))
  | interrupted : (∀ t ∈ program :: args, holdsNull t = false) →
      w.program program args (Utf8.encode input) = .interrupted →
      Judges w program args input (.error .interrupted)

/-! ## First lines -/

/-- A text has one first line, which goes on as long as no line end is met. -/
theorem isFirstLine_iff {t line : Text} :
    IsFirstLine t line ↔ line = t.takeWhile fun c => !Text.isLineEnd c := by
  constructor
  · rintro ⟨hline, rest, rfl, hrest⟩
    have hall : ∀ c ∈ line, (!Text.isLineEnd c) = true := fun c hc => by rw [hline c hc]; rfl
    rw [List.takeWhile_append_of_pos hall]
    cases rest with
    | nil => rw [List.takeWhile_nil, List.append_nil]
    | cons c cs => simp [hrest c rfl]
  · rintro rfl
    refine ⟨fun c hc => ?_, t.dropWhile fun c => !Text.isLineEnd c,
      List.takeWhile_append_dropWhile.symm, fun c hc => ?_⟩
    · simpa using List.all_eq_true.mp List.all_takeWhile c hc
    · have hhead := List.head?_dropWhile_not (fun c => !Text.isLineEnd c) t
      rw [Option.mem_def.mp hc] at hhead
      simpa using hhead

/-- The first line is empty if the text is, or if it begins with a line end. -/
theorem IsFirstLine.eq_nil_iff {t line : Text} (h : IsFirstLine t line) :
    line = [] ↔ t = [] ∨ ∃ c ∈ t.head?, Text.isLineEnd c = true := by
  rw [isFirstLine_iff.mp h]
  cases t with
  | nil => simp
  | cons c cs => simp [List.takeWhile_cons]

/-! ## Reports of programs that failed -/

section ExitReport

variable {program message : Text} {r : ProgramResult}

/-- There is one report, and it is the one that the command finds. -/
theorem exitReport_iff :
    ExitReport program r message ↔
      message = (Text.firstLine? (Utf8.decodeLossy r.errors)).getD
        (program ++ ": exit status " ++ Text.ofInt r.status) := by
  unfold Text.firstLine?
  -- only no bytes are read as no text, so the bytes decide which of the two reports it is
  by_cases herrors : r.errors = []
  · have hempty : (Utf8.decodeLossy r.errors).isEmpty = true := by
      rw [List.isEmpty_iff, Utf8.decodeLossy_eq_nil_iff, herrors]
    rw [if_pos hempty, Option.getD_none]
    constructor
    · rintro (⟨hne, -⟩ | -)
      · exact absurd herrors hne
      · rfl
    · rintro rfl
      exact .status herrors
  · have hempty : ¬ (Utf8.decodeLossy r.errors).isEmpty = true := by
      rwa [List.isEmpty_iff, Utf8.decodeLossy_eq_nil_iff]
    rw [if_neg hempty, Option.getD_some]
    constructor
    · rintro (⟨-, hline⟩ | hnone)
      · exact isFirstLine_iff.mp hline
      · exact absurd hnone herrors
    · exact fun h => .firstLine herrors (isFirstLine_iff.mpr h)

/-- **A report says nothing** if what the program wrote begins with a line end. -/
theorem ExitReport.eq_nil_iff (h : ExitReport program r message) :
    message = [] ↔ ∃ c ∈ (Utf8.decodeLossy r.errors).head?, Text.isLineEnd c = true := by
  cases h with
  | firstLine hne hline =>
      have hsome : Utf8.decodeLossy r.errors ≠ [] := fun h0 =>
        hne (Utf8.decodeLossy_eq_nil_iff.mp h0)
      rw [hline.eq_nil_iff, or_iff_right hsome]
  | status hnone =>
      rw [hnone, Utf8.decodeLossy]
      simp

end ExitReport

/-! ## Launches -/

section Launch

variable {w : World} {program : Text} {args : List Text} {input : Text} {r : ProgramResult}

/-- Every launch comes to something. -/
theorem World.cannotLaunch_or_ends_or_interrupted (w : World) (program : Text) (args : List Text)
    (input : Text) :
    w.CannotLaunch program args input ∨ (∃ r, w.Ends program args input r) ∨
      (∀ t ∈ program :: args, holdsNull t = false) ∧
        w.program program args (Utf8.encode input) = .interrupted := by
  by_cases hnull : ∃ t ∈ program :: args, holdsNull t = true
  · obtain ⟨t, ht, hnull⟩ := hnull
    exact .inl (.null ht hnull)
  · have hno : ∀ t ∈ program :: args, holdsNull t = false := by simpa using hnull
    cases hlaunch : w.program program args (Utf8.encode input) with
    | finished r => exact .inr (.inl ⟨r, hno, hlaunch⟩)
    | refused reason => exact .inl (.refused hlaunch)
    | interrupted => exact .inr (.inr ⟨hno, rfl⟩)

/-- A program that cannot be launched is reported with its name. -/
theorem outcome_runExternal_of_cannotLaunch (h : w.CannotLaunch program args input) :
    (runExternal w program args input).outcome = .error (.shell (.commandNotFound program)) := by
  rw [runExternal, World.launch]
  -- a null character is looked for first, whatever the system would say
  cases hnull : (program :: args).any holdsNull with
  | true => rfl
  | false =>
      rcases h with ⟨ht, hholds⟩ | hrefused
      · rw [List.any_eq_true.mpr ⟨_, ht, hholds⟩] at hnull
        cases hnull
      · rw [hrefused]
        rfl

theorem World.Ends.launch_eq (h : w.Ends program args input r) :
    w.launch program args input = ⟨launchEvents program args input r.status, .ok (.ok r)⟩ := by
  have hnull : (program :: args).any holdsNull = false := by simpa using h.notNull
  simp only [World.launch, hnull, h.finished]
  rfl

/-- **A program that runs to its end** is judged by its status. -/
theorem World.Ends.runExternal_eq (h : w.Ends program args input r) :
    runExternal w program args input =
      ⟨launchEvents program args input r.status,
        if r.status = 0 then .ok (Utf8.decodeLossy r.output)
        else .error (.shell (.execution ((Text.firstLine? (Utf8.decodeLossy r.errors)).getD
          (program ++ ": exit status " ++ Text.ofInt r.status)) (some r.status)))⟩ := by
  rw [runExternal, h.launch_eq]
  simp only [bind, Run.andThen]
  split <;> simp [pure, Run.done, Run.fail]

theorem World.Ends.outcome_runExternal_of_status_eq_zero (h : w.Ends program args input r)
    (hstatus : r.status = 0) :
    (runExternal w program args input).outcome = .ok (Utf8.decodeLossy r.output) := by
  rw [h.runExternal_eq, if_pos hstatus]

theorem World.Ends.outcome_runExternal_of_status_ne_zero (h : w.Ends program args input r)
    (hstatus : r.status ≠ 0) {message : Text} (hmessage : ExitReport program r message) :
    (runExternal w program args input).outcome =
      .error (.shell (.execution message (some r.status))) := by
  rw [h.runExternal_eq, if_neg hstatus, exitReport_iff.mp hmessage]

/-- A program that is interrupted leaves nothing but the interrupt. -/
theorem outcome_runExternal_of_interrupted (hnull : ∀ t ∈ program :: args, holdsNull t = false)
    (h : w.program program args (Utf8.encode input) = .interrupted) :
    (runExternal w program args input).outcome = .error .interrupted := by
  have hany : (program :: args).any holdsNull = false := by simpa using hnull
  rw [runExternal, World.launch]
  simp only [hany, h]
  rfl

/-- **Whatever becomes of a program**, its command makes of it what it should. -/
theorem judges_outcome_runExternal (w : World) (program : Text) (args : List Text) (input : Text) :
    Judges w program args input (runExternal w program args input).outcome := by
  rcases w.cannotLaunch_or_ends_or_interrupted program args input with
    hcannot | ⟨r, hr⟩ | ⟨hnull, hinterrupted⟩
  · rw [outcome_runExternal_of_cannotLaunch hcannot]
    exact .notFound hcannot
  · by_cases hstatus : r.status = 0
    · rw [hr.outcome_runExternal_of_status_eq_zero hstatus]
      exact .output hr hstatus
    · have hmessage : ExitReport program r _ := exitReport_iff.mpr rfl
      rw [hr.outcome_runExternal_of_status_ne_zero hstatus hmessage]
      exact .failed hr hstatus hmessage
  · rw [outcome_runExternal_of_interrupted hnull hinterrupted]
    exact .interrupted hnull hinterrupted

/-- A program is reported as not found exactly if it cannot be launched. -/
theorem outcome_runExternal_eq_commandNotFound_iff {name : Text} :
    (runExternal w program args input).outcome = .error (.shell (.commandNotFound name)) ↔
      w.CannotLaunch program args input ∧ name = program := by
  constructor
  · intro h
    have hjudges := judges_outcome_runExternal w program args input
    rw [h] at hjudges
    cases hjudges with
    | notFound hcannot => exact ⟨hcannot, rfl⟩
  · rintro ⟨hcannot, rfl⟩
    exact outcome_runExternal_of_cannotLaunch hcannot

/-- What a program wrote is handed on exactly if it ends with status zero. -/
theorem outcome_runExternal_eq_ok_iff {out : Text} :
    (runExternal w program args input).outcome = .ok out ↔
      ∃ r, w.Ends program args input r ∧ r.status = 0 ∧ out = Utf8.decodeLossy r.output := by
  constructor
  · intro h
    have hjudges := judges_outcome_runExternal w program args input
    rw [h] at hjudges
    cases hjudges with
    | output hr hstatus => exact ⟨_, hr, hstatus, rfl⟩
  · rintro ⟨r, hr, hstatus, rfl⟩
    exact hr.outcome_runExternal_of_status_eq_zero hstatus

/-- A program is reported as failed exactly if it ends with another status. -/
theorem outcome_runExternal_eq_execution_iff {message : Text} {status : Option Int} :
    (runExternal w program args input).outcome = .error (.shell (.execution message status)) ↔
      ∃ r, w.Ends program args input r ∧ r.status ≠ 0 ∧ status = some r.status ∧
        ExitReport program r message := by
  constructor
  · intro h
    have hjudges := judges_outcome_runExternal w program args input
    rw [h] at hjudges
    cases hjudges with
    | failed hr hstatus hmessage => exact ⟨_, hr, hstatus, rfl, hmessage⟩
  · rintro ⟨r, hr, hstatus, rfl, hmessage⟩
    exact hr.outcome_runExternal_of_status_ne_zero hstatus hmessage

end Launch

/-- **What becomes of a program is what its command reports.**  A program that cannot be launched,
for whatever reason, is reported as not found, with its name.  What a program wrote to its standard
output is handed on exactly if it ends with status zero.  If it ends with any other status, an error
is reported with that status, and the output is dropped.

The message of this error is the first line of what the program wrote to its standard error output,
or its name and status if it wrote nothing there.  It says something unless the first character there
is a line end: then the first line is empty, and so is the message. -/
theorem Command.reports_by_launch (w : World) (program : Text) (args : List Text) (input : Text) :
    let outcome := ((Command.external program args).run w input).outcome
    (∀ name, outcome = .error (.shell (.commandNotFound name)) ↔
      w.CannotLaunch program args input ∧ name = program) ∧
    (∀ out, outcome = .ok out ↔
      ∃ r, w.Ends program args input r ∧ r.status = 0 ∧ out = Utf8.decodeLossy r.output) ∧
    (∀ message status, outcome = .error (.shell (.execution message status)) ↔
      ∃ r, w.Ends program args input r ∧ r.status ≠ 0 ∧ status = some r.status ∧
        ExitReport program r message) ∧
    ∀ r, ∃ message, (∀ m, ExitReport program r m ↔ m = message) ∧
      (message = [] ↔ ∃ c ∈ (Utf8.decodeLossy r.errors).head?, Text.isLineEnd c = true) := by
  intro outcome
  refine ⟨fun name => outcome_runExternal_eq_commandNotFound_iff,
    fun out => outcome_runExternal_eq_ok_iff,
    fun message status => outcome_runExternal_eq_execution_iff,
    fun r => ⟨_, fun m => exitReport_iff, ?_⟩⟩
  exact (exitReport_iff.mpr rfl).eq_nil_iff

/-- Not every program that fails is reported with a message: an empty line before the complaint is
all that is shown. -/
theorem Command.not_failed_program_has_message :
    ¬ ∀ (w : World) (program : Text) (args : List Text) (input : Text) (r : ProgramResult),
      w.Ends program args input r → r.status ≠ 0 →
      ∃ message, ((Command.external program args).run w input).outcome =
        .error (.shell (.execution message (some r.status))) ∧ message ≠ [] := by
  intro h
  let r : ProgramResult := ⟨[], [10], 3⟩
  let w : World := ⟨fun _ => none, fun _ _ _ => .finished r, ['/']⟩
  have hends : w.Ends ['p'] [] [] r := ⟨by decide, rfl⟩
  have hempty : ((Command.external ['p'] []).run w []).outcome =
      .error (.shell (.execution [] (some 3))) := by
    refine hends.outcome_runExternal_of_status_ne_zero (by decide) (.firstLine (by decide) ?_)
    exact isFirstLine_iff.mpr (by decide +kernel)
  obtain ⟨message, hmessage, hne⟩ := h w ['p'] [] [] r hends (by decide)
  rw [hempty] at hmessage
  cases hmessage
  exact hne rfl

end TextShell
