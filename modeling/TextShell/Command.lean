import TextShell.Text.Quoted

/-!
# Commands

A command is one stage of a pipeline: a built-in one with arguments, or a program with arguments.
The first word of a stage selects a built-in command if it is exactly its name.

## Main Definitions

* `Builtin` — the built-in commands
* `Command` — a command with its arguments
* `Command.ofWords` — the command that a name and arguments select
* `Command.shown` — the written form
-/

namespace TextShell

/-- The built-in commands. -/
inductive Builtin where
  | echo
  | cat
  | wc
  | grep
  | pwd
  | exit
  deriving DecidableEq, Repr

namespace Builtin

/-- Every built-in command. -/
def all : List Builtin := [.echo, .cat, .wc, .grep, .pwd, .exit]

/-- The word that selects the command. -/
def name : Builtin → Text
  | .echo => "echo"
  | .cat => "cat"
  | .wc => "wc"
  | .grep => "grep"
  | .pwd => "pwd"
  | .exit => "exit"

/-- The name of the command in written forms. -/
def label : Builtin → Text
  | .echo => "Echo"
  | .cat => "Cat"
  | .wc => "Wc"
  | .grep => "Grep"
  | .pwd => "Pwd"
  | .exit => "Exit"

/-- The command of a name. -/
def ofName? (name : Text) : Option Builtin :=
  all.find? fun b => b.name == name

end Builtin

/-- A command with its arguments. -/
inductive Command where
  /-- A built-in command. -/
  | builtin (b : Builtin) (args : List Text)
  /-- A program outside the shell. -/
  | external (program : Text) (args : List Text)
  deriving DecidableEq, Repr

namespace Command

/-- The command that a name and arguments select. -/
def ofWords (name : Text) (args : List Text) : Command :=
  match Builtin.ofName? name with
  | some b => .builtin b args
  | none => .external name args

/-- The word that selects the command. -/
def name : Command → Text
  | .builtin b _ => b.name
  | .external program _ => program

/-- The arguments of the command. -/
def args : Command → List Text
  | .builtin _ args => args
  | .external _ args => args

/-- Whether the command is one of the shell's own. -/
def isBuiltin : Command → Bool
  | .builtin _ _ => true
  | .external _ _ => false

/-- The kind of the command in written forms. -/
def label : Command → Text
  | .builtin b _ => b.label
  | .external _ _ => "External"

/-- The written form: the kind of the command, then its words, quoted. -/
def shown : Command → Text
  | .builtin b args => b.label ++ "(" ++ Text.quotedList args ++ ")"
  | .external program args =>
    "External(" ++ program.quoted ++ ", " ++ Text.quotedList args ++ ")"

end Command

end TextShell
