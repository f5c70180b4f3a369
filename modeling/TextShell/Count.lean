import TextShell.Text.Blank

/-!
# Counting

## Main Definitions

* `Counts` — lines, words and characters
* `Counts.ofText` — the counts of a text
-/

namespace TextShell

/-- Numbers of lines, words and characters. -/
structure Counts where
  lines : Nat
  words : Nat
  characters : Nat
  deriving DecidableEq, Repr

namespace Counts

/-- The counts of a text. Lines are the parts between line feeds, so a text without one is one line
and a line feed at the end adds an empty last line. -/
def ofText (t : Text) : Counts where
  lines := (t.pieces '\n').length
  words := t.words.length
  characters := t.length

/-- The counts of two texts together. -/
def add (a b : Counts) : Counts where
  lines := a.lines + b.lines
  words := a.words + b.words
  characters := a.characters + b.characters

/-- No counts. -/
def zero : Counts := ⟨0, 0, 0⟩

/-- The three numbers with a space between them. -/
def shown (c : Counts) : Text :=
  Text.joinWith " " [Text.ofNat c.lines, Text.ofNat c.words, Text.ofNat c.characters]

end Counts

end TextShell
