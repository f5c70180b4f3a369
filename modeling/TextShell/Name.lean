import TextShell.Text.Basic

/-!
# Variable names

A name begins with an ASCII letter or an underscore and goes on with those and ASCII digits.

## Main Definitions

* `isNameStart`, `isNameChar` — the two classes of characters
* `IsName` — a text that is a name
* `splitName` — the longest name at the start of a text, and what follows it
-/

namespace TextShell

/-- A character that may begin a name. -/
def isNameStart (c : Char) : Bool :=
  c.isAlpha || c == '_'

/-- A character that may continue a name. -/
def isNameChar (c : Char) : Bool :=
  isNameStart c || c.isDigit

/-- A text that is a name from its first to its last character. -/
def IsName : Text → Prop
  | [] => False
  | c :: cs => isNameStart c = true ∧ ∀ d ∈ cs, isNameChar d = true

instance : DecidablePred IsName
  | [] => inferInstanceAs (Decidable False)
  | c :: cs =>
    have : Decidable (∀ d ∈ cs, isNameChar d = true) := List.decidableBAll _ cs
    inferInstanceAs (Decidable (isNameStart c = true ∧ ∀ d ∈ cs, isNameChar d = true))

/-- The longest name at the start of a text, empty if there is none, and what follows it. -/
def splitName : Text → Text × Text
  | [] => ([], [])
  | c :: cs =>
    if isNameStart c then (c :: cs.takeWhile isNameChar, cs.dropWhile isNameChar) else ([], c :: cs)

/-- The two parts make up the text. -/
theorem splitName_append (t : Text) : (splitName t).1 ++ (splitName t).2 = t := by
  cases t with
  | nil => rfl
  | cons c cs => by_cases h : isNameStart c <;> simp [splitName, h]

/-- The first part is a name unless it is empty. -/
theorem isName_of_splitName {t : Text} (h : (splitName t).1 ≠ []) : IsName (splitName t).1 := by
  cases t with
  | nil => exact absurd rfl h
  | cons c cs =>
    by_cases hc : isNameStart c
    · simp only [splitName, hc, if_true, IsName, true_and]
      exact List.all_eq_true.mp List.all_takeWhile
    · simp [splitName, hc] at h

end TextShell
