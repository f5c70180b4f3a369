import TextShell.Text.Basic

/-!
# Lines

Three readings of a text as lines are in use. The commands cut at line feeds alone and keep the empty
part after the last one. A script accepts three line ends and has no line after the last one. The
first line of a program's complaint ends at any character that ends a line in some convention.

## Main Definitions

* `Text.unifyLineEnds`, `Text.scriptLines` — the lines of a script
* `Text.firstLine?` — the first line under every convention
-/

namespace TextShell

namespace Text

/-- Every line end, be it a carriage return, a line feed or the two together, as one line feed. -/
def unifyLineEnds : Text → Text
  | [] => []
  | '\r' :: '\n' :: cs => '\n' :: unifyLineEnds cs
  | c :: cs => (if c = '\r' then '\n' else c) :: unifyLineEnds cs

/-- The lines of a script without their ends. A last line may lack its end; no line follows the
last end. -/
def scriptLines (t : Text) : List Text :=
  let parts := t.unifyLineEnds.pieces '\n'
  if parts.getLast? = some [] then parts.dropLast else parts

/-- A character that ends a line in some convention. -/
def isLineEnd (c : Char) : Bool :=
  let n := c.toNat
  decide (0x0a ≤ n) && decide (n ≤ 0x0d) || decide (0x1c ≤ n) && decide (n ≤ 0x1e) ||
    n == 0x85 || n == 0x2028 || n == 0x2029

/-- The first line of a text that is not empty, without its end. -/
def firstLine? (t : Text) : Option Text :=
  if t.isEmpty then none else some (t.takeWhile fun c => !isLineEnd c)

end Text

end TextShell
