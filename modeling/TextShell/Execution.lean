import TextShell.Count
import TextShell.Grep.Filter
import TextShell.Run
import TextShell.Text.Lines
import TextShell.World

/-!
# Running commands

A command takes the text that the command before it wrote and writes a text. Pipelines are not
streamed: each command writes all of its output before the next one begins, and the first one that
fails ends the pipeline.

## Main Definitions

* `World.readText`, `World.launch` — reading a file and launching a program
* `Command.run` — one command
* `Pipeline.run` — a pipeline
-/

namespace TextShell

/-- Why a program could not be launched. -/
structure LaunchError where
  program : Text
  reason : Text
  deriving DecidableEq, Repr

/-- The wording. -/
def LaunchError.message (e : LaunchError) : Text :=
  if e.reason.isEmpty then e.program else e.program ++ ": " ++ e.reason

namespace World

/-- Opens a file for reading. A path with a null character is refused before it is looked up. -/
def openFile (w : World) (path : Text) : Run FileEntry := do
  if holdsNull path then Run.fail .nullInPath
  else
    Run.emit (.read path)
    return w.entry path

/-- Reads a whole file as text, whatever its bytes are. -/
def readText (w : World) (path : Text) : Run (Except FileError Text) := do
  match ← w.openFile path with
  | .content bytes => return .ok (Utf8.decodeLossy bytes)
  | .failure e => return .error e

/-- Launches a program with some standard input and waits for its end. A null character in its name or
in an argument is refused before the launch. -/
def launch (w : World) (program : Text) (args : List Text) (input : Text) :
    Run (Except LaunchError ProgramResult) := do
  let argv := program :: args
  Run.log (.launching argv)
  if argv.any holdsNull then return .error ⟨program, "embedded null byte"⟩
  else
    Run.emit (.launched argv input)
    match w.program program args (Utf8.encode input) with
    | .refused reason => return .error ⟨program, reason⟩
    | .interrupted => Run.fail .interrupted
    | .finished r =>
      Run.log (.exited program r.status)
      return .ok r

end World

/-- Tells the user about a file that a command cannot read. -/
def warnAbout (command path : Text) (e : FileError) : Run Unit :=
  Run.emit (.warned (command ++ ": " ++ path ++ ": " ++ e.message path))

/-- What some readable files hold, each put through `f`. The user is told about the others. -/
def collectFiles (w : World) (command : Text) (f : Text → Run Text) : List Text → Run Text
  | [] => return []
  | path :: paths => do
    match ← w.readText path with
    | .ok text => return (← f text) ++ (← collectFiles w command f paths)
    | .error e =>
      warnAbout command path e
      collectFiles w command f paths

/-- The counts of some files, all of which must be readable. -/
def countFiles (w : World) : List Text → Run (List (Text × Counts))
  | [] => return []
  | path :: paths => do
    match ← w.readText path with
    | .ok text => return (path, Counts.ofText text) :: (← countFiles w paths)
    | .error e => Run.report ("wc: " ++ path ++ ": " ++ e.message path)

/-- A count with a title in front. -/
def titledCounts (title : Text) (c : Counts) : Text :=
  title ++ ": " ++ c.shown

/-- The lines that `wc` writes for some files: one for each, and a total if there are several. -/
def wcLines (rows : List (Text × Counts)) : List Text :=
  let lines := rows.map fun (path, c) => titledCounts path c
  match rows with
  | [] | [_] => lines
  | _ => lines ++ [titledCounts "total" (rows.foldl (fun t (_, c) => t.add c) Counts.zero)]

/-- Counts the input, or files. -/
def runWc (w : World) (args : List Text) (input : Text) : Run Text :=
  if args.isEmpty then return (Counts.ofText input).shown
  else do return Text.joinWith ['\n'] (wcLines (← countFiles w args))

/-- Passes the input on, or what files hold. -/
def runCat (w : World) (args : List Text) (input : Text) : Run Text :=
  if args.isEmpty then return input else collectFiles w "cat" pure args

/-- The options of `grep`, as a failure of the command if they are wrong. -/
def grepOptions (args : List Text) : Run GrepOptions :=
  match GrepOptions.ofArguments args with
  | .ok o => return o
  | .error (.usage e) => Run.report ("grep: " ++ e.message)
  | .error (.countDigits digits) => Run.fail (.countDigits digits)

/-- The pattern of `grep`, as a failure of the command if it is malformed. -/
def grepRegex (o : GrepOptions) : Run Regex :=
  match o.regex with
  | .ok r => return r
  | .error (.excess e) => Run.fail (.pattern e)
  | .error e => Run.report ("grep: invalid pattern: " ++ e.message)

/-- Selects lines of a text. -/
def selectFrom (r : Regex) (o : GrepOptions) (text : Text) : Run Text :=
  match r.select o.after text with
  | .ok selected => return selected
  | .error e => Run.fail (.pattern e)

/-- Selects lines of the input, or of files. The arguments are checked before any file is read. -/
def runGrep (w : World) (args : List Text) (input : Text) : Run Text := do
  let o ← grepOptions args
  let r ← grepRegex o
  if o.files.isEmpty then selectFrom r o input else collectFiles w "grep" (selectFrom r o) o.files

/-- Runs a program. A program that fails is reported by the first line of its complaint. -/
def runExternal (w : World) (program : Text) (args : List Text) (input : Text) : Run Text := do
  match ← w.launch program args input with
  | .error e => Run.fail (.shell (.commandNotFound e.program))
  | .ok r =>
    if r.status = 0 then return Utf8.decodeLossy r.output
    else
      let complaint := (Text.firstLine? (Utf8.decodeLossy r.errors)).getD
        (program ++ ": exit status " ++ Text.ofInt r.status)
      Run.fail (.shell (.execution complaint (some r.status)))

/-- What one command writes when it reads `input`. -/
def Command.run (w : World) (input : Text) : Command → Run Text
  | .builtin .echo args => return Text.joinWith " " args
  | .builtin .cat args => runCat w args input
  | .builtin .wc args => runWc w args input
  | .builtin .grep args => runGrep w args input
  | .builtin .pwd _ => return w.workingDirectory
  | .builtin .exit _ => return []
  | .external program args => runExternal w program args input

/-- What some commands write when the first of them reads `input` and each other one what the one
before it wrote. -/
def runCommands (w : World) (input : Text) : List Command → Run Text
  | [] => return input
  | c :: cs => do
    Run.log (.running c)
    runCommands w (← c.run w input) cs

/-- What a pipeline writes. Its first command reads nothing. -/
def Pipeline.run (w : World) (p : Pipeline) : Run Text :=
  runCommands w [] p.toList

end TextShell
