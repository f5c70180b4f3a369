import TextShell.Text.Basic

/-!
# Control sequences

A terminal takes an escape character, an opening bracket, parameters and a letter as a command. A text
that does not go to a terminal is written without them.

## Main Definitions

* `afterSequence?` — what follows a control sequence
* `Text.withoutSequences` — a text without its control sequences
-/

namespace TextShell

/-- The character that begins a control sequence. -/
def escapeChar : Char := '\x1b'

/-- Whether a character may stand among the parameters of a control sequence. -/
def isParameter (c : Char) : Bool :=
  c.isDigit || c == ';' || c == '?'

/-- What follows a control sequence, if the text begins with one. -/
def afterSequence? : Text → Option Text
  | c :: '[' :: cs =>
    if c = escapeChar then
      match cs.dropWhile isParameter with
      | [] => none
      | letter :: rest => if letter.isAlpha then some rest else none
    else none
  | _ => none

/-- A control sequence leaves less of the text than it began with. -/
theorem length_lt_of_afterSequence? {t rest : Text} (h : afterSequence? t = some rest) :
    rest.length < t.length := by
  unfold afterSequence? at h
  split at h
  · next c cs =>
    have hle := (List.dropWhile_sublist isParameter (l := cs)).length_le
    split at h
    · split at h
      · cases h
      · next heq =>
        rw [heq] at hle
        split at h
        · simp only [Option.some.injEq] at h
          subst h
          simp only [List.length_cons] at hle ⊢
          omega
        · cases h
    · cases h
  · cases h

namespace Text

/-- A text without its control sequences. -/
def withoutSequences : Text → Text
  | [] => []
  | c :: cs =>
    match _h : afterSequence? (c :: cs) with
    | some rest => withoutSequences rest
    | none => c :: withoutSequences cs
termination_by t => t.length
decreasing_by
  · exact length_lt_of_afterSequence? _h
  · simp

end Text

end TextShell
