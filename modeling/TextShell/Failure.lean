import TextShell.Grep.Options
import TextShell.Pattern.Error

/-!
# Failures

A command that fails reports a shell error, which ends its statement and nothing else. Apart from
these there are refusals that no command expects, and the user may interrupt a program.

## Main Definitions

* `ShellError` — the errors that commands report
* `Failure` — those and everything else that ends a statement
-/

namespace TextShell

/-- An error that a command reports. -/
inductive ShellError where
  /-- A program that could not be launched. -/
  | commandNotFound (name : Text)
  /-- A command that failed, with the exit status if it was a program. -/
  | execution (message : Text) (status : Option Int)
  deriving DecidableEq, Repr

namespace ShellError

/-- The wording. -/
def message : ShellError → Text
  | .commandNotFound name => name ++ ": command not found"
  | .execution message _ => message

/-- The written form: the kind and the quoted wording. -/
def shown (e : ShellError) : Text :=
  let kind : Text :=
    match e with
    | .commandNotFound _ => "CommandNotFound"
    | .execution _ _ => "CommandExecutionError"
  kind ++ "(" ++ e.message.quoted ++ ")"

end ShellError

/-- What ends a statement before its time. -/
inductive Failure where
  /-- An error that a command reports. -/
  | shell (e : ShellError)
  /-- A path with a null character. -/
  | nullInPath
  /-- A count with too many digits. -/
  | countDigits (digits : Nat)
  /-- A pattern that asks for too much. -/
  | pattern (e : Excess)
  /-- A pipeline without commands. -/
  | emptyPipeline
  /-- Something that is no statement. -/
  | notAStatement (shown : Text)
  /-- A log level that is a text without a severity. -/
  | unknownLevel (level : Text)
  /-- A log level that is no text. -/
  | notALevel (shown : Text)
  /-- The user interrupted a program. -/
  | interrupted
  deriving DecidableEq, Repr

/-- The wording. -/
def Failure.message : Failure → Text
  | .shell e => e.message
  | .nullInPath => "embedded null byte"
  | .countDigits digits => digitLimitMessage digits
  | .pattern e => e.message
  | .emptyPipeline => "a pipeline needs at least one command"
  | .notAStatement shown => "not a statement: " ++ shown
  | .unknownLevel level => "Unknown level: " ++ level.quoted
  | .notALevel shown => "Level not an integer or a valid string: " ++ shown
  | .interrupted => []

end TextShell
