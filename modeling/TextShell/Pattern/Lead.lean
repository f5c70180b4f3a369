import TextShell.Pattern.CharMatch

/-!
# How a pattern begins

## Main Definitions

* `Opening`, `Pattern.opening` — what comes first in a pattern
* `Pattern.single?` — a pattern of one character
* `Lead`, `Pattern.lead` — how the places are found where a match may begin
-/

namespace TextShell

/-- What comes first in a pattern. -/
inductive Opening where
  /-- Nothing: the pattern is empty. -/
  | nothing
  /-- One character in one letter case. -/
  | character (c : Nat)
  /-- A set of characters that is matched as it stands, under the flags that hold for it. -/
  | set (flags : Flags) (t : CharTest)
  /-- Something else. -/
  | other

/-- Whether the pattern may match at a place, as far as its first character tells. -/
def Opening.allows (text : Array Char) (pos : Nat) : Opening → Bool
  | .character c => text[pos]?.any fun x => x.toNat == c
  | .set flags t => text[pos]?.any fun x => t.accepts flags x.toNat
  | _ => true

namespace CharTest

/-- What comes first in a pattern of one character. -/
def opening (flags : Flags) : CharTest → Opening
  | .code c => if flags.ignoreCase && Folding.cased ⟨flags.unicode⟩ c then .other else .character c
  | .notCode _ => .other
  | .any => .other
  | .oneOf negated items =>
    if flags.ignoreCase && items.any (ClassItem.hasCase ⟨flags.unicode⟩) then .other
    else .set flags (.oneOf negated items)

/-- Whether counting the characters that pass carries the search along: a set in which letter case is
ignored, or a letter that stands for such a set, is tried one character after the other. -/
def strides (flags : Flags) : CharTest → Bool
  | .code c | .notCode c =>
    let f : Folding := ⟨flags.unicode⟩
    flags.ignoreCase && f.cased c && decide (1 < (f.alike (f.lower c)).length)
  | .any => false
  | .oneOf _ items => flags.ignoreCase && items.any (ClassItem.hasCase ⟨flags.unicode⟩)

end CharTest

namespace Pattern

/-- What comes first in a pattern, where the beginning of a group may count as nothing. -/
def opening (throughGroups : Bool) : Flags → Pattern → Opening
  | _, .empty => .nothing
  | flags, .char t => t.opening flags
  | flags, .seq p q =>
    match opening throughGroups flags p with
    | .nothing => opening throughGroups flags q
    | o => o
  | flags, .group _ p => if throughGroups then opening throughGroups flags p else .other
  | flags, .withFlags on off p => opening throughGroups (flags.within on off) p
  | _, _ => .other

/-- A pattern of one character, with the flags that hold for it. -/
def single? : Flags → Pattern → Option (Flags × CharTest)
  | flags, .char t => some (flags, t)
  | flags, .withFlags on off p => single? (flags.within on off) p
  | _, _ => none

/-- The character with which a pattern begins, if it begins with one whose letter case counts. -/
def firstCode? (flags : Flags) : Pattern → Option Nat
  | .char t | .seq (.char t) _ =>
    match t.opening flags with
    | .character c => some c
    | _ => none
  | _ => none

/-- The characters with which alternatives begin, if each begins with one. -/
def firstCodes? (flags : Flags) : Pattern → Option (List Nat)
  | .alt p q => do return (← p.firstCode? flags) :: (← firstCodes? flags q)
  | p => (p.firstCode? flags).map fun c => [c]

/-- The set in which the first character of a match must lie, if the pattern begins with a set in
which letter case does not matter, or with alternatives that each begin with a character. -/
def leading? : Flags → Pattern → Option CharTest
  | flags, .char (.oneOf negated items) =>
    if flags.ignoreCase && items.any (ClassItem.mayVary ⟨flags.unicode⟩) then none
    else some (.oneOf negated items)
  | flags, .alt p q => (firstCodes? flags (.alt p q)).map fun cs => .oneOf false (cs.map .code)
  | flags, .seq p _ => leading? flags p
  | flags, .group _ p => leading? flags p
  | flags, .withFlags on off p => leading? (flags.within on off) p
  | _, _ => none

end Pattern

/-- How the places are found where a match may begin. -/
inductive Lead where
  /-- They are those of a character. -/
  | character
  /-- They are those of the characters of a set. -/
  | set (t : CharTest)
  /-- Every place is tried. -/
  | free

/-- How the places are found where a match of a pattern may begin. -/
def Pattern.lead (flags : Flags) (p : Pattern) : Lead :=
  match p.opening true flags with
  | .character _ => .character
  | _ =>
    match p.leading? flags with
    | some t => .set t
    | none => .free

end TextShell
