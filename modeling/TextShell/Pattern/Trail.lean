import TextShell.Pattern.Basic

/-!
# The trail of a match

A pattern is matched by trying its ways in a fixed order and going back to the latest choice when
what follows fails. A failed attempt leaves a trail: the place from which the search last went on, and
where groups began and ended on the way. The next way starts from the place of the choice. Inside of a
repetition the marks of the groups are put back first; outside of every repetition only those are taken
back that were not there before.

## Main Definitions

* `Marks` — where groups begin and end
* `Trail` — what an attempt leaves behind
* `Spot` — a place in the text, with the trail that leads to it
* `Attempt` — a success or the trail of a failure
* `Continuation`, `Matcher` — what follows a pattern, and a pattern that is matched
-/

namespace TextShell

/-- Where groups begin and end. Group `g` begins at the mark of number `2 * (g - 1)` and ends at the
next one. -/
structure Marks where
  /-- The marks below this number count. -/
  count : Nat := 0
  /-- Marks with their places, the latest first. -/
  places : List (Nat × Nat) := []
  deriving DecidableEq, Repr

namespace Marks

/-- Sets a mark. One that is set beyond those that count makes those between count as missing. -/
def put (m : Marks) (i pos : Nat) : Marks :=
  if i < m.count then { m with places := (i, pos) :: m.places }
  else ⟨i + 1, (i, pos) :: m.places.filter fun x => decide (x.1 < m.count)⟩

/-- Where the latest match of a group lies. A group that began again and has not ended yet counts
only if its earlier end does not lie before its new beginning. -/
def group? (m : Marks) (g : Nat) : Option (Nat × Nat) :=
  let i := 2 * (g - 1)
  if i + 1 < m.count then
    match m.places.lookup i, m.places.lookup (i + 1) with
    | some a, some b => if a ≤ b then some (a, b) else none
    | _, _ => none
  else none

/-- Whether some group ends before it begins. -/
def isCrossed (m : Marks) : Bool :=
  (List.range m.count).any fun i =>
    i % 2 == 0 && decide (i + 1 < m.count) &&
      match m.places.lookup i, m.places.lookup (i + 1) with
      | some a, some b => decide (b < a)
      | _, _ => false

/-- The marks with which the next way starts after an attempt that began with `before` failed and left
`after`. -/
def putBack (looping : Bool) (before after : Marks) : Marks :=
  if looping then before else { after with count := before.count }

end Marks

/-- What an attempt leaves behind. -/
structure Trail where
  /-- The place from which the search last went on. -/
  reach : Nat
  marks : Marks := {}
  deriving DecidableEq, Repr

/-- The trail when the search goes on from a place. -/
def Trail.from (t : Trail) (pos : Nat) : Trail :=
  { t with reach := pos }

/-- A place in the text. -/
structure Spot where
  /-- How many characters lie before the place. -/
  pos : Nat
  /-- The trail that leads to it. -/
  trail : Trail
  deriving DecidableEq, Repr

/-- A success, or the trail of a failure. -/
inductive Attempt where
  | matched (s : Spot)
  | failed (t : Trail)
  deriving DecidableEq, Repr

namespace Attempt

/-- Where a success ended. -/
def success? : Attempt → Option Spot
  | .matched s => some s
  | .failed _ => none

/-- What to do after a failure. -/
def orElse (a : Attempt) (next : Trail → Attempt) : Attempt :=
  match a with
  | .matched s => .matched s
  | .failed t => next t

/-- A failure goes back to a place. -/
def backAt (a : Attempt) (pos : Nat) : Attempt :=
  a.orElse fun t => .failed (t.from pos)

end Attempt

namespace Spot

/-- The same, farther on or back. -/
def moveTo (s : Spot) (pos : Nat) : Spot :=
  { s with pos := pos }

/-- The place from which the search goes on. -/
def settled (s : Spot) : Spot :=
  { s with trail := s.trail.from s.pos }

/-- A group begins here. -/
def beginGroup (s : Spot) (g : Nat) : Spot :=
  { s with trail := { s.trail with marks := s.trail.marks.put (2 * (g - 1)) s.pos } }

/-- A group ends here. -/
def endGroup (s : Spot) (g : Nat) : Spot :=
  { s with trail := { s.trail with marks := s.trail.marks.put (2 * (g - 1) + 1) s.pos } }

/-- Where the latest match of a group lies. -/
def group? (s : Spot) (g : Nat) : Option (Nat × Nat) :=
  s.trail.marks.group? g

/-- The place for the next way after an attempt from here failed. -/
def retry (s : Spot) (looping : Bool) (t : Trail) : Spot :=
  { s with trail := { t with marks := s.trail.marks.putBack looping t.marks } }

/-- The success of a pattern that nothing follows. -/
def done (s : Spot) : Attempt :=
  .matched s.settled

end Spot

/-- What follows a pattern. -/
abbrev Continuation := Spot → Attempt

/-- A pattern that is matched: what it makes of a place and a continuation. -/
abbrev Matcher := Spot → Continuation → Attempt

end TextShell
