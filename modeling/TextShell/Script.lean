import TextShell.Session
import TextShell.Text.Lines

/-!
# Scripts

A script is a file of lines, which are run in order without their outer blanks. Blank lines and lines
that begin with a number sign are skipped. The first line that reports an error ends the script.

## Main Definitions

* `Script.lines` — the lines of a script that are run, with their numbers
* `Script.runLines` — runs numbered lines
* `Script.run` — runs the script under a path
-/

namespace TextShell

namespace Script

/-- Whether a line without its outer blanks says something. -/
def isStatement (line : Text) : Bool :=
  !line.isEmpty && line.head? != some '#'

/-- The lines of a script that are run, with their numbers, which count every line. -/
def lines (text : Text) : List (Nat × Text) :=
  ((text.scriptLines.map Text.trim).zipIdx 1).filterMap fun (line, n) =>
    if isStatement line then some (n, line) else none

/-- Runs numbered lines up to the first one that fails or ends the session. The result is the exit
code. -/
def runLines (w : World) (vars : Variables) : List (Nat × Text) → Turn Nat
  | [] => .keep vars (return 0)
  | (n, line) :: rest =>
    let t := Session.execute w vars line
    match t.outcome with
    | .ok .continue =>
      let t' := runLines w t.vars rest
      { run := ⟨t.events ++ t'.events, t'.outcome⟩, vars := t'.vars }
    | .ok .exit => { run := ⟨t.events, .ok 0⟩, vars := t.vars }
    | .error (.shell e) =>
      let report := "Error at line " ++ Text.ofNat n ++ ": " ++ e.message ++ ['\n']
      { run := ⟨t.events ++ [.printed report], .ok 1⟩, vars := t.vars }
    | .error e => { run := ⟨t.events, .error e⟩, vars := t.vars }

/-- The exit code of a script that is not there. -/
def notFoundCode : Nat := 127

/-- Reports that a script cannot be read. The result is the exit code. -/
def refuse (path reason : Text) (code : Nat) : Run Nat := do
  printLine ("pipesh: " ++ path ++ ": " ++ reason)
  return code

/-- Why a script that cannot be opened is refused, and the exit code. -/
def refusal (path : Text) (e : FileError) : Text × Nat :=
  if e.kind = .notFound then (FileError.notFound.reason, notFoundCode)
  else if e.reason.isEmpty then (e.full path, 1)
  else (e.reason, 1)

/-- Opens a script and reads all of it. Unless it can be read, the exit code is the result. -/
def load (w : World) (path : Text) : Run (Except Nat Text) := do
  match ← w.openFile path with
  | .failure e =>
    let (reason, code) := refusal path e
    return .error (← refuse path reason code)
  | .content bytes =>
    match Utf8.decodeStrict bytes with
    | .ok text => return .ok text
    | .error e => return .error (← refuse path e.message 1)

/-- Runs the script under a path. The result is the exit code. -/
def run (w : World) (vars : Variables) (path : Text) : Turn Nat :=
  let loaded := load w path
  match loaded.outcome with
  | .error e => .keep vars ⟨loaded.events, .error e⟩
  | .ok (.error code) => .keep vars ⟨loaded.events, .ok code⟩
  | .ok (.ok text) =>
    let t := runLines w vars (lines text)
    { run := ⟨loaded.events ++ t.events, t.outcome⟩, vars := t.vars }

end Script

end TextShell
