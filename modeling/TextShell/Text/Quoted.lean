import TextShell.Text.Basic
import TextShell.Text.Printable

/-!
# Quoted texts

A text is shown between quotes: single ones, unless it holds a single quote and no double one. The
chosen quote and the backslash are preceded by a backslash, the three usual controls are written as
escapes, and any other character that is not printable is written by its number.

## Main Definitions

* `Text.quoted` — a text between quotes
* `Text.quotedList` — a bracketed list of quoted texts
-/

namespace TextShell

namespace Text

/-- The quote that surrounds a text. -/
def quoteFor (t : Text) : Char :=
  if t.contains '\'' && !t.contains '"' then '"' else '\''

/-- A character that is not printable, by its number, in as few of two, four or eight hexadecimal
digits as hold it. -/
def numbered (c : Char) : Text :=
  let n := c.toNat
  if n ≤ 0xff then "\\x" ++ ofHex 2 n
  else if n ≤ 0xffff then "\\u" ++ ofHex 4 n
  else "\\U" ++ ofHex 8 n

/-- A character as it stands between the quotes `q`. -/
def quotedChar (q c : Char) : Text :=
  if c == q || c == '\\' then ['\\', c]
  else if c == '\t' then "\\t"
  else if c == '\n' then "\\n"
  else if c == '\r' then "\\r"
  else if isPrintable c then [c]
  else numbered c

/-- A text between quotes. -/
def quoted (t : Text) : Text :=
  let q := t.quoteFor
  [q] ++ t.flatMap (quotedChar q) ++ [q]

/-- Quoted texts in brackets, with a comma and a space between neighbours. -/
def quotedList (ts : List Text) : Text :=
  "[" ++ joinWith ", " (ts.map quoted) ++ "]"

end Text

end TextShell
