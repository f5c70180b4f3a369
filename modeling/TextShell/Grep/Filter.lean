import TextShell.Grep.Options
import TextShell.Pattern.Match

/-!
# Selecting lines

A text is cut at its line feeds. A line is selected if the pattern is found in it or if it is one of
the lines after such a line that were asked for. Every selected line gets a line feed.

## Main Definitions

* `wholeWords` — the pattern that finds another one as a whole word only
* `GrepOptions.regex` — the pattern that some options ask for
* `filterLines` — the selected lines of a text
* `Regex.select` — the lines of a text that a pattern selects, if each can be matched
-/

namespace TextShell

/-- The pattern that finds another one between two word boundaries only. -/
def wholeWords (pattern : Text) : Text :=
  "\\b(?:" ++ pattern ++ ")\\b"

/-- The pattern that some options ask for. -/
def GrepOptions.regex (o : GrepOptions) : Except PatternError Regex :=
  Regex.compile { ignoreCase := o.ignoreCase }
    (if o.wholeWord then wholeWords o.pattern else o.pattern)

/-- The selected lines, when `left` more lines are selected because of an earlier one. -/
def selectLines (isMatch : Text → Bool) (after : Nat) : Nat → List Text → List Text
  | _, [] => []
  | left, line :: lines =>
    if isMatch line then line :: selectLines isMatch after after lines
    else
      match left with
      | 0 => selectLines isMatch after 0 lines
      | n + 1 => line :: selectLines isMatch after n lines

/-- A line with a line feed after it. -/
def endLine (line : Text) : Text :=
  line ++ ['\n']

/-- The selected lines of a text. -/
def filterLines (isMatch : Text → Bool) (after : Nat) (text : Text) : Text :=
  (selectLines isMatch after 0 (text.pieces '\n')).flatMap endLine

/-- The lines of a text that a pattern selects. A line in which the match leaves a group that ends
before it begins is refused, and with it the whole text. -/
def Regex.select (r : Regex) (after : Nat) (text : Text) : Except Excess Text :=
  if (text.pieces '\n').any r.misplaces then .error .groupSpan
  else .ok (filterLines r.found after text)

end TextShell
