import TextShell.Pattern.Reading

/-!
# Alternatives

Alternatives that begin alike share their beginning, and alternatives of one character each become a
set. Neither changes what matches as long as letter case counts.

## Main Definitions

* `mergeAlternatives` — some alternatives as one sequence
* `Level.pattern` — what was read inside of a bracket, as a pattern
-/

namespace TextShell

/-- The parts with which all alternatives begin, `first` being one of them, and what is left of each.
Only parts that match in at most one way are shared. -/
def commonStart : List Pattern → List (List Pattern) → List Pattern × List (List Pattern)
  | [], others => ([], [] :: others)
  | p :: ps, others =>
    if p.isUnit && others.all (fun o => o.head? == some p) then
      let (shared, rest) := commonStart ps (others.map List.tail)
      (p :: shared, rest)
    else ([], (p :: ps) :: others)

/-- The members that an alternative adds to a set, if it is one character or one set. -/
def setItems? : List Pattern → Option (List ClassItem)
  | [.char (.code c)] => some [.code c]
  | [.char (.oneOf false items)] => some items
  | _ => none

/-- The first of some alternatives that leads to a match, or one set if each is a character. -/
def choice (alternatives : List (List Pattern)) : Pattern :=
  match alternatives.mapM setItems? with
  | some items => .char (.oneOf false items.flatten.eraseDups)
  | none => .oneOfList (alternatives.map .ofList)

/-- Some alternatives as one sequence. -/
def mergeAlternatives : List (List Pattern) → List Pattern
  | [] => []
  | [only] => only
  | first :: others =>
    let (shared, rest) := commonStart first others
    shared ++ [choice rest]

namespace Level

/-- The alternative in progress. A group that only brackets its parts is dissolved into them. -/
def sequence (l : Level) : List Pattern :=
  l.parts.reverse.flatMap fun part => part.pattern.toList

/-- What was read, as a pattern. -/
def pattern (l : Level) : Pattern :=
  .ofList (mergeAlternatives (l.sequence :: l.finished).reverse)

end Level

end TextShell
