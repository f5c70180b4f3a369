import TextShell.Text.Basic

/-!
# Names of Hangul syllables

A Hangul syllable is named by the sounds it consists of: a leading consonant, a vowel and a trailing
consonant, where either consonant may be missing. The syllables are numbered in this order.

## Main Definitions

* `CharName.syllable?` — the syllable with the given sounds
-/

namespace TextShell

namespace CharName

/-- The leading consonants. -/
def leads : List Text :=
  ["G", "GG", "N", "D", "DD", "R", "M", "B", "BB", "S", "SS", "", "J", "JJ", "C", "K", "T", "P", "H"]

/-- The vowels. -/
def vowels : List Text :=
  ["A", "AE", "YA", "YAE", "EO", "E", "YEO", "YE", "O", "WA", "WAE", "OE", "YO", "U", "WEO", "WE",
    "WI", "YU", "EU", "YI", "I"]

/-- The trailing consonants. -/
def trails : List Text :=
  ["", "G", "GG", "GS", "N", "NJ", "NH", "D", "L", "LG", "LM", "LB", "LS", "LT", "LP", "LH", "M", "B",
    "BS", "S", "SS", "NG", "J", "C", "K", "T", "P", "H"]

/-- The code point of the first syllable. -/
def firstSyllable : Nat := 0xac00

/-- The longest of some sounds that a text begins with: its number, and what follows it. -/
def splitSound (sounds : List Text) (t : Text) : Option (Nat × Text) :=
  let found := sounds.zipIdx.filter fun (s, _) => s.isPrefixOf t
  let longest := found.foldl
    (fun best x =>
      match best with
      | some b => if b.1.length < x.1.length then some x else best
      | none => some x)
    (none : Option (Text × Nat))
  longest.map fun (s, n) => (n, t.drop s.length)

/-- The code point of the syllable with the given sounds. -/
def syllable? (sounds : Text) : Option Nat := do
  let (l, rest) ← splitSound leads sounds
  let (v, rest) ← splitSound vowels rest
  let (t, rest) ← splitSound trails rest
  if rest.isEmpty then
    some (firstSyllable + (l * vowels.length + v) * trails.length + t)
  else none

end CharName

end TextShell
