import TextShell.Pattern.Reading

/-!
# Quantifiers

A quantifier repeats the part before it. Braces that hold no bounds are ordinary characters.

## Main Definitions

* `readBounds?` — reads the bounds between braces, if there are any
* `quantify` — repeats the last part of the alternative in progress
-/

namespace TextShell

/-- The number of repetitions that cannot be asked for any more. -/
def repetitionLimit : Nat := 4294967295

namespace Reading

/-- Adds a part to the alternative in progress. -/
def addPart (part : Part) : Reading Unit :=
  modify fun s => { s with level := { s.level with parts := part :: s.level.parts } }

/-- Adds a pattern that a quantifier may repeat. -/
def add (p : Pattern) : Reading Unit :=
  addPart { pattern := p }

/-- Adds a condition on a place, which a quantifier must not repeat. -/
def addAnchor (a : Anchor) : Reading Unit :=
  addPart { pattern := .anchor a, quantifiable := .anchor }

/-- The number of repetitions that some digits write, if there are digits. -/
def repetitions? (digits : Text) : Reading (Option Nat) := do
  if digits.isEmpty then return none
  if digits.length > digitLimit then exceed (.countDigits digits.length)
  let n := Text.valueOf 10 (digits.filterMap Text.hexValue?)
  if repetitionLimit ≤ n then exceed .repetitions
  return some n

/-- Reads the bounds after an opening brace: a number, or two of which either may be missing, and the
closing brace. If they are not there, nothing is read. -/
def readBounds? : Reading (Option (Nat × Option Nat)) := do
  let s ← get
  if (← peek) = some (.plain '\x7d') then return none
  let lo ← takeWhile Char.isDigit
  let comma ← accept ','
  let hi ← if comma then takeWhile Char.isDigit else pure lo
  if !(← accept '\x7d') then
    set s
    return none
  let least := (← repetitions? lo).getD 0
  let most ← repetitions? hi
  if let some n := most then
    if n < least then failAt s.source.pos .minAboveMax
  return some (least, most)

/-- Repeats the last part. The quantifier stands at `start`; a question mark after it makes it lazy and
a plus sign possessive. -/
def quantify (start least : Nat) (most : Option Nat) : Reading Unit := do
  match (← get).level.parts with
  | [] => failAt start .nothingToRepeat
  | part :: parts =>
    match part.quantifiable with
    | .anchor => failAt start .nothingToRepeat
    | .repeated => failAt start .multipleRepeat
    | .yes =>
      let lazy ← accept '?'
      let possessive ← if lazy then pure false else accept '+'
      let greed : Greed := if lazy then .lazy else if possessive then .possessive else .greedy
      let part : Part :=
        { pattern := .iterate greed least most part.pattern, quantifiable := .repeated }
      modify fun s => { s with level := { s.level with parts := part :: parts } }

end Reading

end TextShell
