import TextShell.Pattern.Basic

/-!
# Groups of a pattern

Groups are numbered from one in the order in which they are opened. A reference may name a group only
once it is closed, and then the width of the group is known.

## Main Definitions

* `Groups` — the groups of a pattern as far as it was read
-/

namespace TextShell

/-- What is known of the groups of a pattern. -/
structure Groups where
  /-- For every group opened so far, in order, its width once it is closed. -/
  widths : List (Option Width) := []
  /-- The names of groups with their numbers. -/
  names : List (Text × Nat) := []

namespace Groups

/-- The number of the group that is opened next. -/
def next (g : Groups) : Nat :=
  g.widths.length + 1

/-- The width of a group that is closed. -/
def closed? (g : Groups) (n : Nat) : Option Width :=
  match n with
  | 0 => none
  | k + 1 => g.widths[k]?.join

/-- The width of a group, taken as nothing while it is open. -/
def width (g : Groups) (n : Nat) : Width :=
  (g.closed? n).getD (.exactly 0)

/-- The groups after a group was opened. -/
def «open» (g : Groups) (name : Option Text) : Groups where
  widths := g.widths ++ [none]
  names :=
    match name with
    | none => g.names
    | some n => (n, g.next) :: g.names

/-- The groups after a group was closed. -/
def close (g : Groups) (n : Nat) (w : Width) : Groups :=
  { g with widths := g.widths.set (n - 1) (some w) }

end Groups

end TextShell
