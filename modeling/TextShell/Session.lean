import TextShell.Execution
import TextShell.Variables

/-!
# Sessions

A session runs lines one after the other and keeps variables between them. A line that fails leaves
the variables as they were and prints nothing; one that succeeds prints the output of its pipeline.

## Main Definitions

* `Status` — whether the session goes on
* `Turn` — what running something in a session does
* `Session.execute` — runs one line
* `Session.runLine` — runs one line and prints the error it reports
-/

namespace TextShell

/-- Whether the session goes on. -/
inductive Status where
  | continue
  | exit
  deriving DecidableEq, Repr

/-- A pipeline ends the session if `exit` is its only command. -/
def Pipeline.status (p : Pipeline) : Status :=
  match p.head, p.tail with
  | .builtin .exit _, [] => .exit
  | _, _ => .continue

/-- What running something in a session does: its effects and its outcome, and the variables
afterwards. -/
structure Turn (α : Type) where
  /-- The effects and the outcome. -/
  run : Run α
  /-- The variables afterwards. -/
  vars : Variables

namespace Turn

/-- A turn that changes no variables. -/
def keep {α : Type} (vars : Variables) (run : Run α) : Turn α :=
  ⟨run, vars⟩

/-- The effects. -/
def events {α : Type} (t : Turn α) : List Event :=
  t.run.events

/-- The result or the failure. -/
def outcome {α : Type} (t : Turn α) : Except Failure α :=
  t.run.outcome

/-- The text that was printed. -/
def printed {α : Type} (t : Turn α) : Text :=
  (t.events.filterMap Event.printed?).flatten

end Turn

/-- Prints a line. -/
def printLine (t : Text) : Run Unit :=
  Run.emit (.printed (t ++ ['\n']))

/-- Prints an output, ended by a line feed if it is not empty. -/
def printOutput (output : Text) : Run Unit :=
  if output.isEmpty then return ()
  else if output.getLast? = some '\n' then Run.emit (.printed output)
  else printLine output

/-- Something that may be executed, or may have been taken for it by mistake. -/
inductive Instruction where
  | statement (s : Statement)
  /-- A line that was not read yet. -/
  | unread (line : Text)
  /-- What a blank line says. -/
  | nothing
  deriving DecidableEq, Repr

namespace Statement

/-- Executes a statement: its output, and whether the session goes on. -/
def execute (w : World) (vars : Variables) : Statement → Turn (Text × Status)
  | .assignment name value =>
    ⟨do Run.log (.assigned name value); return ([], .continue), vars.set name value⟩
  | .pipeline p => .keep vars do return (← p.run w, p.status)

end Statement

/-- Executes an instruction, which must be a statement. -/
def Instruction.execute (w : World) (vars : Variables) : Instruction → Turn (Text × Status)
  | .statement s => s.execute w vars
  | .unread line => .keep vars (Run.fail (.notAStatement line.quoted))
  | .nothing => .keep vars (Run.fail (.notAStatement "None"))

namespace Session

/-- Runs one line and prints its output. -/
def execute (w : World) (vars : Variables) (line : Text) : Turn Status :=
  match Statement.ofLine vars.lookup line with
  | none => .keep vars (return .continue)
  | some s =>
    let t := s.execute w vars
    { run := do
        Run.log (.parsed s)
        let (output, status) ← t.run
        printOutput output
        return status
      vars := t.vars }

/-- Takes up the error that a command reports; any other failure stays one. -/
def handle {α : Type} (r : Run α) (recover : ShellError → Run α) : Run α :=
  match r.outcome with
  | .error (.shell e) => ⟨r.events ++ (recover e).events, (recover e).outcome⟩
  | _ => r

/-- Runs one line. An error that a command reports is printed, and there is no status then. -/
def runLine (w : World) (vars : Variables) (line : Text) : Turn (Option Status) :=
  let t := execute w vars line
  { run := handle (some <$> t.run) fun e => do
      Run.log (.failed e)
      printLine e.message
      return none
    vars := t.vars }

end Session

end TextShell
