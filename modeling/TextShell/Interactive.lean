import TextShell.Session
import TextShell.Settings

/-!
# The interactive loop

The loop prompts for lines and runs them until a line ends the session or the input ends. Neither a
failing line nor an interrupt ends it.

## Main Definitions

* `Typed` — what the user does at a prompt
* `Interactive.answer` — runs one typed line, whatever comes of it
* `Interactive.loop` — prompts and answers
* `Interactive.chooseHistory` — the file that typed lines are kept in
* `Interactive.run` — the whole dialogue
-/

namespace TextShell

/-- What the user does at a prompt. -/
inductive Typed where
  /-- Types a line. -/
  | line (t : Text)
  /-- Interrupts. -/
  | interrupt
  deriving DecidableEq, Repr

/-- How the program names itself with its version. -/
def versionText : Text := "pipesh 0.1.0"

namespace Interactive

/-- The help, line by line. -/
def helpLines : List Text := [
  "pipesh - minimal shell with variables and pipelines",
  "",
  "Built-in Commands:",
  "  echo                 - Print arguments separated by spaces",
  "  cat                  - Print files, or pass input through",
  "  wc                   - Count lines, words and characters",
  "  grep [-i] [-w] [-A n] regex ",
  "                                - Print matching lines (and n lines after each)",
  "  pwd                           - Print current working directory",
  "  exit                          - Exit the shell",
  "",
  "Any other command name runs the program of that name.",
  "",
  "Syntax:",
  "  name=value                    - Assign a variable",
  "  $name, $\x7bname\x7d                - Substitute a variable ('' if unset)",
  "  \"...\" or '...'                - Quote words containing spaces or |",
  "  command1 | command2           - Feed the output of command1 to command2",
  "",
  "Examples:",
  "  > x=world",
  "  > echo \"hello $x\" | wc",
  "  > cat notes.txt | grep -i -A 2 todo",
  "",
  "Special Commands:",
  "  help                          - Show this help",
  "  Ctrl+C                        - Cancel current line",
  "  Ctrl+D                        - Exit the shell",
  ""]

/-- Prints the help. -/
def printHelp : Run Unit :=
  Run.emit (.printed (helpLines.flatMap fun line => line ++ ['\n']))

/-- Prints who is there and how to leave. -/
def greet : Run Unit := do
  printLine versionText
  printLine "Type 'help' for help, Ctrl+D or 'exit' to quit"

/-- Tells the user about a failure that no command reports. -/
def complain (f : Failure) : Run Unit :=
  match f with
  | .interrupted => printLine "\n^C"
  | f => do
    Run.log .unexpected
    printLine ("Unexpected error: " ++ f.message)

/-- A run whose failure, if any, is told to the user and then forgotten. -/
def survive {α : Type} (r : Run (Option α)) : List Event × Option α :=
  match r.outcome with
  | .ok a => (r.events, a)
  | .error f => (r.events ++ (complain f).events, none)

/-- What answering one line does: the effects, the variables afterwards and whether the session goes
on. -/
structure Answer where
  events : List Event
  vars : Variables
  status : Status

/-- Answers one typed line. The word `help` alone asks for the help. -/
def answer (w : World) (vars : Variables) (line : Text) : Answer :=
  if line.trim = "help".toList then ⟨printHelp.events, vars, .continue⟩
  else
    let t := Session.runLine w vars line
    let (events, status) := survive t.run
    ⟨events, t.vars, status.getD .continue⟩

/-- What the loop did. -/
structure Dialogue where
  /-- The effects. -/
  events : List Event
  /-- The variables afterwards. -/
  vars : Variables
  /-- How often the user was prompted. -/
  prompts : Nat
  /-- What was not read any more. -/
  unread : List Typed

/-- Prompts and answers until the session or the input ends. -/
def loop (w : World) (vars : Variables) : List Typed → Dialogue
  | [] => ⟨[], vars, 1, []⟩
  | .interrupt :: rest =>
    let d := loop w vars rest
    { d with prompts := d.prompts + 1 }
  | .line line :: rest =>
    let a := answer w vars line
    match a.status with
    | .exit => ⟨a.events, a.vars, 1, rest⟩
    | .continue =>
      let d := loop w a.vars rest
      { d with events := a.events ++ d.events, prompts := d.prompts + 1 }

/-- The directory part of a path, without the slashes at its end unless it consists of them. -/
def directoryOf (path : Text) : Text :=
  let head := (path.reverse.dropWhile (· != '/')).reverse
  if head.all (· == '/') then head else dropEndSlashes head

/-- The file that typed lines are kept in, none for a temporary one. The user is told if the chosen
file or its directory cannot be used. -/
def chooseHistory (w : World) (path : Text) : Run (Option Text) :=
  let directory := directoryOf path
  if !directory.isEmpty && w.isBroken directory then fallBack
  else if holdsNull path then Run.fail .nullInPath
  else if path.isEmpty || w.isBroken path then fallBack
  else return some path
where
  /-- Takes a temporary file and says so. -/
  fallBack : Run (Option Text) := do
    printLine ("Warning: Cannot use " ++ path ++ ", using temporary history file")
    return none

/-- How a dialogue ended. -/
structure Farewell where
  /-- The file that typed lines were kept in, none for a temporary one. -/
  history : Option Text
  /-- The prompts that were shown. -/
  prompts : List Text
  /-- What was not read any more. -/
  unread : List Typed
  deriving DecidableEq, Repr

/-- Greets the user and chooses the file for typed lines. -/
def start (w : World) (s : Settings) : Run (Option Text) := do
  greet
  chooseHistory w s.historyFile

/-- The whole dialogue, which begins without variables. -/
def run (w : World) (s : Settings) (typed : List Typed) : Turn Farewell :=
  let started := start w s
  match started.outcome with
  | .error f => .keep .empty ⟨started.events, .error f⟩
  | .ok history =>
    let d := loop w .empty typed
    { run := do
        Run.emitAll (started.events ++ d.events)
        printLine "Goodbye!"
        return ⟨history, List.replicate d.prompts s.prompt, d.unread⟩
      vars := d.vars }

end Interactive

end TextShell
