import TextShell.CommandLine.Arguments
import TextShell.Interactive
import TextShell.Script

/-!
# The program as a whole

Given a line, the program runs it; otherwise given a script, it runs that; otherwise it runs the
interactive loop.

## Main Definitions

* `Report` — what a call of the program leaves behind
* `Invocation.run` — runs what was asked for
* `report` — the call of the program with some arguments
-/

namespace TextShell

/-- What a call of the program leaves behind. -/
structure Report where
  /-- The effects. -/
  events : List Event := []
  /-- What was written to the standard error output at the end, apart from the warnings. -/
  complaint : Text := []
  /-- A failure that nothing took up. -/
  failure : Option Failure := none
  /-- The exit code. -/
  exitCode : Nat
  /-- The least severity that was logged. -/
  severity : Nat := warningSeverity
  /-- The prompts that were shown. -/
  prompts : List Text := []

namespace Report

/-- What was written to the standard output. -/
def output (r : Report) : Text :=
  (r.events.filterMap Event.printed?).flatten

/-- What was written to the standard error output, apart from the log. -/
def errors (r : Report) : Text :=
  (r.events.filterMap Event.warned?).flatMap (fun m => m ++ ['\n']) ++ r.complaint

/-- A call that writes a text and succeeds. -/
def ofNotice (text : Text) : Report :=
  { events := [.printed text], exitCode := 0 }

/-- A call with a mistake in its arguments. -/
def ofUsageError (e : UsageError) : Report :=
  { complaint := e.report, exitCode := 2 }

/-- A call that failed. An interrupt is an orderly end. -/
def ofFailure (severity : Nat) (events : List Event) : Failure → Report
  | .interrupted => { events, complaint := "\nAborted!\n", exitCode := 1, severity }
  | f => { events, failure := some f, exitCode := 1, severity }

end Report

/-- The exit code of a line: whether it did not fail. -/
def lineCode : Option Status → Nat
  | some _ => 0
  | none => 1

namespace Invocation

/-- Runs what was asked for: the exit code and the prompts that were shown. -/
def run (w : World) (s : Settings) (typed : List Typed) (i : Invocation) : Run (Nat × List Text) :=
  match i.command, i.script with
  | some line, _ => do return (lineCode (← (Session.runLine w .empty line).run), [])
  | none, some path => do return (← (Script.run w .empty path).run, [])
  | none, none => do return (0, (← (Interactive.run w s typed).run).prompts)

/-- The settings, and the least severity that is logged. -/
def prepare (env : Environment) (o : SettingsOptions) : Except Failure (Settings × Nat) := do
  let s ← Settings.ofOptions env o
  return (s, ← severity s.logLevel)

/-- The call of the program with an invocation. -/
def report (w : World) (env : Environment) (typed : List Typed) (i : Invocation) : Report :=
  match prepare env i.settings with
  | .error f => .ofFailure warningSeverity [] f
  | .ok (s, level) =>
    let r := i.run w s typed
    match r.outcome with
    | .error f => .ofFailure level r.events f
    | .ok (exitCode, prompts) => { events := r.events, exitCode, severity := level, prompts }

end Invocation

/-- How the program names its version. -/
def versionNotice : Text :=
  "pipesh, version " ++ versionText ++ "\n"

/-- How the program is used. -/
def helpNotice : Text :=
  UsageError.usageLine ++
  "\n" ++
  "  pipesh - minimal shell with variables and pipelines\n" ++
  "\n" ++
  "  Runs COMMAND with -c, otherwise the SCRIPT file, otherwise an interactive\n" ++
  "  REPL.\n" ++
  "\n" ++
  "Options:\n" ++
  "  --version                       Show the version and exit.\n" ++
  "  -c TEXT                         Execute command string and exit\n" ++
  "  --log-level [debug|info|warning|error]\n" ++
  "                                  Log level (can also set via PIPESH_LOG_LEVEL\n" ++
  "                                  environment variable)\n" ++
  "  --prompt TEXT                   REPL prompt (can also set via PIPESH_PROMPT)\n" ++
  "  --history-file TEXT             REPL history file (can also set via\n" ++
  "                                  PIPESH_HISTFILE)\n" ++
  "  --help                          Show this message and exit.\n"

/-- The call of the program with some arguments. -/
def report (w : World) (env : Environment) (typed : List Typed) (args : List Text) : Report :=
  match Request.ofArguments args with
  | .error e => .ofUsageError e
  | .ok .showVersion => .ofNotice versionNotice
  | .ok .showHelp => .ofNotice helpNotice
  | .ok (.start i) => i.report w env typed

end TextShell
