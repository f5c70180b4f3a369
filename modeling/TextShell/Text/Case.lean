import TextShell.Text.Basic
import TextShell.Text.CaseTable

/-!
# Letter case

## Main Definitions

* `lowerCode`, `upperCode` — the lowercase and uppercase letter of a code point
* `isCased` — whether one of the two differs from the code point
* `caseClass` — the lowercase letters that count as one when case is ignored
* `lowerSources` — the code points with a given lowercase letter
* `Text.upper` — a text in capitals, where one letter may become several
-/

namespace TextShell

/-- The lowercase letter of a code point, itself if it has none. -/
def lowerCode (c : Nat) : Nat :=
  (lowerRuns.findSome? (·.map? c)).getD c

/-- The capitals of a code point, itself if it has none. -/
def upperCodes (c : Nat) : List Nat :=
  match upperExpansions.lookup c with
  | some codes => codes
  | none => [(upperRuns.findSome? (·.map? c)).getD c]

/-- The first capital of a code point. -/
def upperCode (c : Nat) : Nat :=
  (upperCodes c).headD c

/-- A code point that has another letter case. -/
def isCased (c : Nat) : Bool :=
  lowerCode c != c || upperCode c != c

/-- Whether a code point from `lo` to `hi` has another letter case. -/
def anyCased (lo hi : Nat) : Bool :=
  lowerRuns.any (·.meets lo hi) || upperRuns.any (·.meets lo hi) ||
    upperExpansions.any fun (c, _) => decide (lo ≤ c) && decide (c ≤ hi)

/-- The lowercase letters with the same capital as the lowercase letter `c`, itself among them. -/
def caseClass (c : Nat) : List Nat :=
  (caseClasses.find? (·.contains c)).getD [c]

/-- The code points whose lowercase letter is `c`. -/
def lowerSources (c : Nat) : List Nat :=
  (if lowerCode c = c then [c] else []) ++ lowerRuns.filterMap (·.preimage? c)

/-- The lowercase letter of an ASCII capital; every other code point is kept. -/
def asciiLowerCode (c : Nat) : Nat :=
  if 0x41 ≤ c ∧ c ≤ 0x5a then c + 0x20 else c

/-- A letter of the ASCII alphabet. -/
def isAsciiLetter (c : Nat) : Bool :=
  let l := asciiLowerCode c
  decide (0x61 ≤ l) && decide (l ≤ 0x7a)

namespace Text

/-- A text in capitals. -/
def upper (t : Text) : Text :=
  t.flatMap fun c => (upperCodes c.toNat).map Char.ofNat

/-- A text with its ASCII capitals in lowercase. -/
def asciiLower (t : Text) : Text :=
  t.map fun c => Char.ofNat (asciiLowerCode c.toNat)

end Text

end TextShell
