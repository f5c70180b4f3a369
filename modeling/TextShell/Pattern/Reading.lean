import TextShell.Pattern.Error
import TextShell.Pattern.Groups
import TextShell.Pattern.Token

/-!
# Reading a pattern

The reader of patterns keeps the brackets that are open on a stack and moves through the tokens once.
A lone backslash at the very end of the pattern is an error, raised as soon as the reader comes to it,
whatever else is wrong there.

## Main Definitions

* `ReadState` — how far a pattern was read and what was found
* `Reading` — computations that read a pattern or fail
* `Reading.nextToken`, `Reading.accept`, `Reading.takeUpTo`, `Reading.readName` — the ways to read on
-/

namespace TextShell

/-- A pattern and how far it was read. -/
structure Source where
  /-- The whole pattern. -/
  pattern : Text
  /-- Whether the pattern ends in a lone backslash. -/
  dangling : Bool
  /-- The tokens not yet read. -/
  rest : List Token
  /-- The offset of the first of them. -/
  pos : Nat

/-- The places where a group number is promised to exist, the latest first, with that number. -/
abbrev Promises := List (Nat × Nat)

/-- An alternative's part, and what a quantifier after it does. -/
inductive Quantifiable where
  /-- It repeats the part. -/
  | yes
  /-- It has nothing to repeat. -/
  | anchor
  /-- It would repeat a repetition. -/
  | repeated
  deriving DecidableEq, Repr

/-- A part of an alternative. -/
structure Part where
  pattern : Pattern
  quantifiable : Quantifiable := .yes

/-- The inside of a bracket as far as it was read. -/
structure Level where
  /-- The alternatives that are finished, the latest first. -/
  finished : List (List Pattern) := []
  /-- The parts of the alternative in progress, the latest first. -/
  parts : List Part := []
  /-- Whether blanks and comments are skipped. -/
  verbose : Bool := false

/-- What a closing bracket makes of the inside. -/
inductive Opener where
  | plain
  | flagged (on off : Flags)
  | capture (g : Nat)
  | atomic
  /-- Looking ahead. -/
  | ahead (negated : Bool)
  /-- Looking behind, with the bound on group references that held outside. -/
  | behind (negated : Bool) (bound : Option Nat)
  /-- The first branch of a condition. -/
  | branch (g : Nat)
  /-- The second branch of a condition, after the first. -/
  | otherBranch (g : Nat) (yes : Pattern)

/-- A bracket that is open. -/
structure Bracket where
  opener : Opener
  /-- The offset of the bracket. -/
  start : Nat
  /-- The inside of the bracket around it. -/
  outer : Level

/-- The state of reading a pattern. -/
structure ReadState where
  source : Source
  flags : Flags
  groups : Groups := {}
  /-- Inside of a look-behind, the number of the first group opened in it. -/
  bound : Option Nat := none
  /-- Group numbers that conditions refer to, which must exist in the end. -/
  promises : Promises := []
  /-- The inside of the innermost bracket. -/
  level : Level := {}
  /-- The open brackets, the innermost first. -/
  brackets : List Bracket := []

/-- Computations that read a pattern or fail. -/
abbrev Reading := StateT ReadState (Except PatternError)

namespace Reading

/-- Fails with a complaint about an offset. -/
def failAt {α : Type} (offset : Nat) (complaint : Complaint) : Reading α := do
  let s ← get
  throw (.malformed complaint (some (Place.of s.source.pattern offset)))

/-- Fails with a complaint about the place `back` characters before the next token. -/
def failBack {α : Type} (back : Nat) (complaint : Complaint) : Reading α := do
  failAt ((← get).source.pos - back) complaint

/-- Fails because the pattern asks for too much. -/
def exceed {α : Type} (e : Excess) : Reading α :=
  throw (.excess e)

/-- The next token, which is not read. -/
def peek : Reading (Option Token) := do
  return (← get).source.rest.head?

/-- Goes on to the given rest of the pattern. Coming to a lone backslash is an error. -/
def moveTo (rest : List Token) (pos : Nat) : Reading Unit := do
  modify fun s => { s with source := { s.source with rest := rest, pos := pos } }
  if rest.isEmpty && (← get).source.dangling then failAt pos .endInEscape

/-- Reads the next token, if there is one. -/
def nextToken : Reading (Option Token) := do
  let s ← get
  match s.source.rest with
  | [] => return none
  | t :: ts =>
    moveTo ts (s.source.pos + t.size)
    return some t

/-- Reads the next token if it is the given character. -/
def accept (c : Char) : Reading Bool := do
  if (← peek) = some (.plain c) then
    let _ ← nextToken
    return true
  else return false

/-- Reads characters that satisfy `p`, at most `n` of them. -/
def takeUpTo (n : Nat) (p : Char → Bool) : Reading Text := do
  let s ← get
  let (cs, rest) := spanPlain p n s.source.rest
  if !cs.isEmpty then moveTo rest (s.source.pos + cs.length)
  return cs

/-- Reads all characters that satisfy `p`. -/
def takeWhile (p : Char → Bool) : Reading Text := do
  takeUpTo (← get).source.rest.length p

/-- Reads to the end of the pattern. -/
def skipAll : Reading Unit := do
  let s ← get
  moveTo [] (s.source.pos + (tokensText s.source.rest).length)

/-- Reads through the next token that is the given character. Whether there is one is returned; if
not, the whole rest is read. -/
def skipThrough (c : Char) : Reading Bool := do
  let s ← get
  match splitAtPlain c s.source.rest with
  | some (before, after) =>
    moveTo after (s.source.pos + (tokensText before).length + 1)
    return true
  | none =>
    skipAll
    return false

/-- Reads a name, which ends at the terminator, and the terminator. -/
def readName (terminator : Char) (kind : NameKind) : Reading Text := do
  let s ← get
  match splitAtPlain terminator s.source.rest with
  | some (before, after) =>
    let name := tokensText before
    moveTo after (s.source.pos + name.length + 1)
    if name.isEmpty then failBack 1 (.missingName kind)
    return name
  | none =>
    let name := tokensText s.source.rest
    skipAll
    if name.isEmpty then failBack 0 (.missingName kind)
    else failBack name.length (.unterminatedName terminator)

end Reading

end TextShell
