import TextShell.Command
import TextShell.Line.Scan

/-!
# Completion

While a line is being typed, the names of the commands that the word at the cursor may become are
offered. Only the first word of a stage is completed, and nothing is offered inside quotes or where
the word is not written literally.

## Main Definitions

* `completionNames` — the names that are offered
* `completions` — the offers for the text before the cursor
-/

namespace TextShell

/-- The names that are offered: the built-in commands in alphabetical order, then `help`. -/
def completionNames : List Text :=
  ["cat", "echo", "exit", "grep", "pwd", "wc", "help"]

/-- The word that is to be completed, none where no command may stand. -/
def completedWord? (text : Text) : Option Text :=
  let stage := lastStage text
  if stage.inQuote then none
  else
    match stage.words with
    | [] => some []
    | [word] => if stage.inWord && word.isSuffixOf text then some word else none
    | _ => none

/-- The names offered for the text before the cursor, each with the number of characters that it
replaces. -/
def completions (text : Text) : List (Text × Nat) :=
  match completedWord? text with
  | none => []
  | some word => (completionNames.filter (Text.startsWith word)).map fun n => (n, word.length)

end TextShell
