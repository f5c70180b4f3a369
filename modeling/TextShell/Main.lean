import TextShell.CommandLine.Report

/-!
# The command line

The outer layer of the program. It looks up environment variables, loads files, reads typed lines and
prints. A run says which files it opened; it is repeated, once their contents are known, until it opens
no other file. No program is launched from here, so every program counts as missing.

## Main Definitions

* `main` — the program
-/

namespace TextShell

namespace Outer

/-- The files that were opened so far. -/
abbrev Files := List (Text × FileEntry)

/-- The number of an error, which the system may hand out as a negative one. -/
def errorNumber (code : UInt32) : Nat :=
  min code.toNat (0 - code).toNat

/-- What an error of the system says about a file. -/
def fileError : IO.Error → FileError
  | .noFileOrDirectory _ code reason => ⟨errorNumber code, reason⟩
  | .permissionDenied _ code reason => ⟨errorNumber code, reason⟩
  | .inappropriateType _ code reason => ⟨errorNumber code, reason⟩
  | .resourceExhausted _ code reason => ⟨errorNumber code, reason⟩
  | .otherError code reason => ⟨errorNumber code, reason⟩
  | e => ⟨0, toString e⟩

/-- Opens a file. -/
def fetch (path : Text) : IO FileEntry := do
  match ← (IO.FS.readBinFile (String.ofList path)).toBaseIO with
  | .ok bytes => return .content bytes.toList
  | .error e => return .failure (fileError e)

/-- The world with the files that were opened. Every launch is refused, so a command that is not built in
is not found, whatever is installed. -/
def world (directory : Text) (files : Files) : World where
  file path := files.lookup path
  program _ _ _ := .refused FileError.notFound.reason
  workingDirectory := directory

/-- Opens the files that a run opens, until all are known. -/
partial def settle (directory : Text) (run : World → List Event) (files : Files) : IO World := do
  let w := world directory files
  match (run w).findSome? fun e => e.read?.filter fun path => (files.lookup path).isNone with
  | none => return w
  | some path => settle directory run ((path, ← fetch path) :: files)

/-- Shows what was done. The log goes to the standard error output. -/
def display (logged : Bool) (events : List Event) : IO Unit := do
  for e in events do
    match e with
    | .printed text => IO.print (String.ofList text)
    | .warned message => IO.eprintln (String.ofList message)
    | .logged r => if logged then IO.eprintln (String.ofList r.message)
    | .read _ | .launched _ _ => pure ()

/-- A line of the standard input without its end, none at the end of the input. -/
def typedLine : IO (Option Text) := do
  let line := (← (← IO.getStdin).getLine).toList
  return if line.isEmpty then none else some (line.takeWhile (· != '\n'))

/-- Prompts for lines and answers them. -/
partial def converse (directory prompt : Text) (logged : Bool) (vars : Variables) : IO Unit := do
  IO.print (String.ofList prompt)
  (← IO.getStdout).flush
  match ← typedLine with
  | none => return
  | some line =>
    let w ← settle directory (fun w => (Interactive.answer w vars line).events) []
    let a := Interactive.answer w vars line
    display logged a.events
    match a.status with
    | .exit => return
    | .continue => converse directory prompt logged a.vars

/-- The environment variables that the program looks up. -/
def environment : IO Environment := do
  let names := ["HOME", "PIPESH_PROMPT", "PIPESH_HISTFILE", "PIPESH_LOG_LEVEL"]
  let values ← names.mapM fun name => return (name.toList, (← IO.getEnv name).map String.toList)
  return fun name => (values.lookup name).join

/-- Runs the program up to its end, or up to the first prompt, with the given arguments. -/
def start (env : Environment) (directory : Text) (args : List Text) : IO UInt32 := do
  let w ← settle directory (fun w => (report w env [] args).events) []
  let r := report w env [] args
  display (r.severity ≤ 10) r.events
  IO.eprint (String.ofList r.complaint)
  if let some f := r.failure then IO.eprintln (String.ofList f.message)
  return UInt32.ofNat r.exitCode

/-- The settings of the interactive loop and the least severity that is logged, if the arguments ask for
the loop. -/
def interactive? (env : Environment) (args : List Text) : Option (Settings × Nat) :=
  match Request.ofArguments args with
  | .ok (.start ⟨none, none, o⟩) => (Invocation.prepare env o).toOption
  | _ => none

/-- Holds the dialogue with the user. -/
def dialogue (directory : Text) (s : Settings) (level : Nat) : IO UInt32 := do
  let logged := level ≤ 10
  display logged (Interactive.start (world directory []) s).events
  converse directory s.prompt logged .empty
  display logged (printLine "Goodbye!").events
  return 0

end Outer

end TextShell

/-- Runs the program. -/
def main (args : List String) : IO UInt32 := do
  let env ← TextShell.Outer.environment
  let directory := (← IO.currentDir).toString.toList
  let args := args.map String.toList
  match TextShell.Outer.interactive? env args with
  | some (s, level) => TextShell.Outer.dialogue directory s level
  | none => TextShell.Outer.start env directory args
