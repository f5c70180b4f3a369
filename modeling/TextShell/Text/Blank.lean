import TextShell.Text.Basic
import TextShell.Text.CodeTable

/-!
# Blanks

Blanks separate words. They are the space characters of every script together with the control
characters that move the cursor or separate records.

## Main Definitions

* `isBlank` — a character that separates words
* `Text.words` — the words of a text
* `Text.trim` — a text without its outer blanks
-/

namespace TextShell

/-- The code points of the blanks. -/
def blankTable : CodeTable where
  ranges := [
    (0x09, 0x0d), (0x1c, 0x20), (0x85, 0x85), (0xa0, 0xa0), (0x1680, 0x1680), (0x2000, 0x200a),
    (0x2028, 0x2029), (0x202f, 0x202f), (0x205f, 0x205f), (0x3000, 0x3000)]

/-- A character that separates words. -/
def isBlank (c : Char) : Bool :=
  blankTable.contains c.toNat

/-- A blank of the ASCII alphabet. -/
def isAsciiBlank (c : Nat) : Bool :=
  c == 0x20 || decide (0x09 ≤ c) && decide (c ≤ 0x0d)

namespace Text

/-- The words of a text: its non-empty parts between blanks. -/
def words (t : Text) : List Text :=
  (t.piecesBy isBlank).filter fun w => !w.isEmpty

/-- A text without the characters at its two ends that satisfy `p`. -/
def trimBy (p : Char → Bool) (t : Text) : Text :=
  ((t.dropWhile p).reverse.dropWhile p).reverse

/-- A text without the blanks at its two ends. -/
def trim (t : Text) : Text :=
  t.trimBy isBlank

end Text

end TextShell
