import TextShell.Command
import TextShell.Line.Reference
import TextShell.Line.Scan

/-!
# Statements

A line says nothing, assigns a variable or runs a pipeline. It assigns when, after substitution, it
is a single word of the form `name=value`; the value is the rest of the word, whatever it holds.

## Main Definitions

* `Pipeline` — one or more commands
* `Statement` — an assignment or a pipeline
* `assignment?` — the name and the value that a word assigns
* `Statement.ofLine` — the statement of a line under given values of the variables
* `Statement.shown` — the written form
-/

namespace TextShell

/-- One or more commands, each reading what the one before it wrote. -/
structure Pipeline where
  /-- The first command. -/
  head : Command
  /-- The commands after it. -/
  tail : List Command
  deriving DecidableEq, Repr

namespace Pipeline

/-- The commands in order. -/
def toList (p : Pipeline) : List Command :=
  p.head :: p.tail

/-- The pipeline of some commands, if there is one. -/
def ofList? : List Command → Option Pipeline
  | [] => none
  | c :: cs => some ⟨c, cs⟩

/-- How many commands there are. -/
def length (p : Pipeline) : Nat :=
  p.toList.length

/-- The written form: the commands with bars between them. -/
def shown (p : Pipeline) : Text :=
  "Pipeline(" ++ Text.joinWith " | " (p.toList.map Command.shown) ++ ")"

end Pipeline

/-- What a line says. -/
inductive Statement where
  /-- Gives a variable a value. -/
  | assignment (name value : Text)
  /-- Runs commands. -/
  | pipeline (p : Pipeline)
  deriving DecidableEq, Repr

/-- The name and the value that a word assigns: a name, an equals sign and anything. -/
def assignment? (word : Text) : Option (Text × Text) :=
  match splitName word with
  | ([], _) => none
  | (name, '=' :: value) => some (name, value)
  | _ => none

/-- The command that the words of a stage select. -/
def Command.ofStage : List Text → Command
  | [] => .ofWords [] []
  | name :: args => .ofWords name args

namespace Statement

/-- The statement that some stages make, none if there is no stage. -/
def ofStages : List (List Text) → Option Statement
  | [] => none
  | [[word]] =>
    match assignment? word with
    | some (name, value) => some (.assignment name value)
    | none => some (.pipeline ⟨.ofWords word [], []⟩)
  | stage :: stages => some (.pipeline ⟨.ofStage stage, stages.map .ofStage⟩)

/-- The statement of a line, none if the line is blank. -/
def ofLine (lookup : Text → Text) (line : Text) : Option Statement :=
  ofStages (stages (substitute lookup line))

/-- The written form. -/
def shown : Statement → Text
  | .assignment name value => "Assignment(" ++ name.quoted ++ ", " ++ value.quoted ++ ")"
  | .pipeline p => p.shown

/-- The written form of what a line says. -/
def shownOption : Option Statement → Text
  | none => "None"
  | some s => s.shown

end Statement

end TextShell
