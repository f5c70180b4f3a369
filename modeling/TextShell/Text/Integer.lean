import TextShell.Text.Basic
import TextShell.Text.Blank
import TextShell.Text.Digit

/-!
# Integers

Whole numbers are written with decimal digits of any script and an optional sign. A number of more
than `digitLimit` digits is refused before it is computed.

## Main Definitions

* `signedDigits?` — a sign and the values of the digits of a plain number
* `Text.toInteger?` — the value of a number that may stand between blanks and group its digits
-/

namespace TextShell

/-- The greatest number of digits of a number that is read. -/
def digitLimit : Nat := 4300

/-- The values of decimal digits, if all characters are digits. -/
def digitValues? (t : Text) : Option (List Nat) :=
  t.mapM fun c => digitValue? c.toNat

/-- A sign in front of a text: whether it is a minus, and what follows. -/
def splitSign : Text → Bool × Text
  | '+' :: cs => (false, cs)
  | '-' :: cs => (true, cs)
  | cs => (false, cs)

/-- Whether a number is negative and its digits, of which there is at least one, for a text that
holds an optional sign and digits and nothing else. -/
def signedDigits? (t : Text) : Option (Bool × List Nat) :=
  match splitSign t with
  | (negative, digits) =>
    if digits.isEmpty then none
    else (digitValues? digits).map fun ds => (negative, ds)

/-- The integer with a sign and decimal digits. -/
def integerOf (negative : Bool) (digits : List Nat) : Int :=
  let n : Int := Text.valueOf 10 digits
  if negative then -n else n

/-- Digits in groups that single underscores separate, the underscores left out. -/
def ungroup? (t : Text) : Option Text :=
  let groups := t.pieces '_'
  if groups.any List.isEmpty then none else some groups.flatten

/-- A blank that may stand around a number. The four separators of records may not. -/
def isPadding (c : Char) : Bool :=
  isBlank c && !(decide (0x1c ≤ c.toNat) && decide (c.toNat ≤ 0x1f))

/-- The integer that a text writes: blanks around it are skipped, the digits may be grouped by
single underscores, and there are at most `digitLimit` of them. -/
def Text.toInteger? (t : Text) : Option Int :=
  match splitSign (t.trimBy isPadding) with
  | (negative, grouped) =>
    match ungroup? grouped with
    | none => none
    | some digits =>
      if digits.length > digitLimit then none
      else (digitValues? digits).map (integerOf negative)

end TextShell
