/-!
# Tables of code points

A class of characters is tabulated as inclusive ranges of code points in increasing order.

## Main Definitions

* `CodeTable` — such a table
* `CodeTable.contains` — membership, which stops at the first range beyond the code point
-/

namespace TextShell

/-- A set of code points as inclusive ranges in increasing order. -/
structure CodeTable where
  /-- First and last code point of each range. -/
  ranges : List (Nat × Nat)

namespace CodeTable

/-- Whether one of the ranges, read in increasing order, holds the code point. -/
def containsIn : List (Nat × Nat) → Nat → Bool
  | [], _ => false
  | (lo, hi) :: rest, c =>
    if c < lo then false else if c ≤ hi then true else containsIn rest c

/-- Whether the table holds the code point. -/
def contains (t : CodeTable) (c : Nat) : Bool :=
  containsIn t.ranges c

end CodeTable

end TextShell
