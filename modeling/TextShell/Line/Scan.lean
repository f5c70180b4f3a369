import TextShell.Text.Blank

/-!
# Words and stages of a line

A line is cut into stages at every unquoted bar and a stage into words at unquoted blanks. Between
quotes every character but the closing quote belongs to the word; the quotes themselves do not, and a
quote that is not closed runs to the end of the line. Quoted and unquoted parts that touch make one
word, and an empty pair of quotes makes an empty word.

## Main Definitions

* `Scan` — how far a line was read
* `Scan.step`, `scan` — reading one character and a whole line
* `stages` — the words of every stage that has one
* `LastStage`, `lastStage` — the stage in which a line that is still being typed ends
-/

namespace TextShell

/-- How far a line was read. Every list holds its latest member first. -/
structure Scan where
  /-- The stages that are finished. -/
  finished : List (List Text) := []
  /-- The finished words of the stage in progress. -/
  words : List Text := []
  /-- The characters of the word in progress, if there is one. -/
  word : Option Text := none
  /-- The quote that is open, if there is one. -/
  quote : Option Char := none
  deriving DecidableEq, Repr

/-- A character that opens a quoted part, and closes one that it opened. -/
def isQuote (c : Char) : Bool :=
  c == '"' || c == '\''

namespace Scan

/-- Adds a character to the word in progress, or begins a word with it. -/
def push (s : Scan) (c : Char) : Scan :=
  { s with word := some (c :: s.word.getD []) }

/-- Ends the word in progress, if there is one. -/
def endWord (s : Scan) : Scan :=
  match s.word with
  | none => s
  | some w => { s with words := w.reverse :: s.words, word := none }

/-- Ends the stage in progress. -/
def endStage (s : Scan) : Scan :=
  { s.endWord with finished := s.endWord.words.reverse :: s.endWord.finished, words := [] }

/-- Opens a quoted part, which begins a word if none is in progress. -/
def openQuote (s : Scan) (q : Char) : Scan :=
  { s with quote := some q, word := some (s.word.getD []) }

/-- Reads one character. -/
def step (s : Scan) (c : Char) : Scan :=
  match s.quote with
  | some q => if c = q then { s with quote := none } else s.push c
  | none =>
    if isQuote c then s.openQuote c
    else if c = '|' then s.endStage
    else if isBlank c then s.endWord
    else s.push c

/-- The stages, in order, once the line has ended. -/
def groups (s : Scan) : List (List Text) :=
  s.endStage.finished.reverse

end Scan

/-- Reads a whole line. -/
def scan (line : Text) : Scan :=
  line.foldl Scan.step {}

/-- The words of every stage that has one. -/
def stages (line : Text) : List (List Text) :=
  (scan line).groups.filter fun words => !words.isEmpty

/-- The stage in which a line ends while it is being typed. -/
structure LastStage where
  /-- The words of the stage, the one in progress included. -/
  words : List Text
  /-- Whether the last word may still grow. -/
  inWord : Bool
  /-- Whether a quote is open. -/
  inQuote : Bool
  deriving DecidableEq, Repr

/-- The stage in which a line ends while it is being typed. -/
def lastStage (line : Text) : LastStage :=
  let s := scan line
  { words := s.endWord.words.reverse, inWord := s.word.isSome, inQuote := s.quote.isSome }

end TextShell
