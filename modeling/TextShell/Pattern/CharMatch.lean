import TextShell.Pattern.Basic
import TextShell.Text.Blank
import TextShell.Text.Case
import TextShell.Text.Digit
import TextShell.Text.WordChar

/-!
# Matching one character

When letter case is ignored, a character matches if its lowercase letter is that of a character that
is asked for, or one that shares the capital with it. A set in which nothing has a case is matched as
it stands.

## Main Definitions

* `Category.holds` — membership in a class of characters
* `CharTest.accepts` — whether a code point passes a test under given flags
-/

namespace TextShell

/-- The characters of a class, of every script or of the ASCII alphabet. -/
def Category.holds (unicode : Bool) (k : Category) (c : Nat) : Bool :=
  match k with
  | .digit => if unicode then isDigit c else isAsciiDigit c
  | .blank => if unicode then blankTable.contains c else isAsciiBlank c
  | .word => if unicode then isWordChar c else isAsciiWordChar c

/-- How letter case is ignored: among the letters of every script, or the ASCII ones. -/
structure Folding where
  /-- Whether the letters of every script count. -/
  unicode : Bool

namespace Folding

/-- The lowercase letter of a code point. -/
def lower (f : Folding) (c : Nat) : Nat :=
  if f.unicode then lowerCode c else asciiLowerCode c

/-- Whether a code point has another letter case. -/
def cased (f : Folding) (c : Nat) : Bool :=
  if f.unicode then isCased c else isAsciiLetter c

/-- The lowercase letters that count as the same as the lowercase letter `c`. -/
def alike (f : Folding) (c : Nat) : List Nat :=
  if f.unicode then caseClass c else [c]

/-- The code points whose lowercase letter is `c`. -/
def sources (f : Folding) (c : Nat) : List Nat :=
  if f.unicode then lowerSources c
  else (if asciiLowerCode c = c then [c] else []) ++ (if isAsciiLetter c then [c - 0x20] else [])

/-- Whether a code point from `lo` to `hi` has another letter case. -/
def anyCased (f : Folding) (lo hi : Nat) : Bool :=
  if f.unicode then TextShell.anyCased lo hi
  else decide (lo ≤ 0x5a) && decide (0x41 ≤ hi) || decide (lo ≤ 0x7a) && decide (0x61 ≤ hi)

end Folding

/-- The last code point of the basic plane. Beyond it sets are matched by their bounds alone. -/
def lastBasic : Nat := 0xffff

namespace ClassItem

/-- Whether a member of a set holds a code point. -/
def holds (unicode : Bool) (c : Nat) : ClassItem → Bool
  | .code d => d == c
  | .range lo hi => decide (lo ≤ c) && decide (c ≤ hi)
  | .category k negated => k.holds unicode c != negated

/-- Whether a member has another letter case, where a range beyond the basic plane is taken to have
one. -/
def mayVary (f : Folding) : ClassItem → Bool
  | .code c => f.cased c
  | .range lo hi => f.anyCased lo hi || decide (lastBasic < hi)
  | .category _ _ => false

/-- Whether letter case matters for a member. -/
def hasCase (f : Folding) : ClassItem → Bool
  | .code c => f.cased c || decide (lastBasic < c)
  | .range lo hi => f.anyCased lo hi || decide (lastBasic < hi)
  | .category _ _ => false

/-- Whether a member of a set that is matched without regard to case holds the lowercase letter
`c`. -/
def holdsFolded (f : Folding) (c : Nat) : ClassItem → Bool
  | .code d => if d ≤ lastBasic then (f.alike (f.lower d)).contains c else d == c
  | .range lo hi =>
    let basic := (f.alike c).any fun l =>
      (f.sources l).any fun d => decide (lo ≤ d) && decide (d ≤ min hi lastBasic)
    let beyond := decide (lastBasic < hi) &&
      (decide (lo ≤ c) && decide (c ≤ hi) ||
        decide (lo ≤ upperCode c) && decide (upperCode c ≤ hi))
    basic || beyond
  | .category k negated => k.holds f.unicode c != negated

end ClassItem

namespace CharTest

/-- Whether a code point is the one asked for, in either case if case is ignored. -/
def isCode (flags : Flags) (asked c : Nat) : Bool :=
  let f : Folding := ⟨flags.unicode⟩
  if flags.ignoreCase && f.cased asked then (f.alike (f.lower asked)).contains (f.lower c)
  else asked == c

/-- Whether a code point passes a test. -/
def accepts (flags : Flags) (c : Nat) : CharTest → Bool
  | .code d => isCode flags d c
  | .notCode d => !isCode flags d c
  | .any => flags.dotAll || c != 0x0a
  | .oneOf negated items =>
    let f : Folding := ⟨flags.unicode⟩
    let held :=
      if flags.ignoreCase && items.any (ClassItem.hasCase f) then
        items.any (ClassItem.holdsFolded f (f.lower c))
      else items.any (ClassItem.holds flags.unicode c)
    held != negated

end CharTest

end TextShell
