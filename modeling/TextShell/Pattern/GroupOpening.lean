import TextShell.Pattern.FlagGroup
import TextShell.Pattern.Quantifier
import TextShell.Text.Identifier

/-!
# Opening a group

After an opening bracket, a question mark announces what the group is: named, numbered by nothing,
atomic, a look ahead or behind, a condition, a comment, or one that turns flags on and off.

## Main Definitions

* `openGroup` — reads what stands between an opening bracket and the inside of the group
-/

namespace TextShell

/-- The greatest number of groups. -/
def groupLimit : Nat := 2147483647

namespace Reading

/-- Goes inside a bracket that stands at `start`. -/
def enter (start : Nat) (opener : Opener) (verbose : Bool) : Reading Unit :=
  modify fun s =>
    { s with
      brackets := ⟨opener, start, s.level⟩ :: s.brackets
      level := { verbose := verbose } }

/-- Goes inside a bracket that skips blanks as its surroundings do. -/
def enterAlike (start : Nat) (opener : Opener) : Reading Unit := do
  enter start opener (← get).level.verbose

/-- Fails unless the name of a group, which was just read with one character after it, is an
identifier. -/
def checkGroupName (name : Text) : Reading Unit := do
  if !isIdentifier name then failBack (name.length + 1) (.badGroupName name)

/-- The group of a name that was just read with one character after it. -/
def groupNamed (name : Text) : Reading Nat := do
  match (← get).groups.names.lookup name with
  | some g => return g
  | none => failBack (name.length + 1) (.unknownGroupName name)

/-- Opens a group that records its match, under a name if it has one. -/
def openCapture (start : Nat) (name : Option Text) : Reading Unit := do
  let s ← get
  let g := s.groups.next
  if let some n := name then
    if let some old := s.groups.names.lookup n then
      failBack (n.length + 1) (.renamedGroup n g old)
  set { s with groups := s.groups.open name }
  enterAlike start (.capture g)

/-- Reads what follows the letter for named groups: a name between angle brackets opens a group, an
equals sign and a name refers to one. -/
def openNamed (start : Nat) : Reading Unit := do
  if ← accept '<' then
    let name ← readName '>' .group
    checkGroupName name
    openCapture start (some name)
  else if ← accept '=' then
    let name ← readName ')' .group
    checkGroupName name
    let g ← groupNamed name
    let s ← get
    if (s.groups.closed? g).isNone then failBack (name.length + 1) .openGroup
    checkBound g
    add (.backref g)
  else
    match ← nextToken with
    | none => failBack 0 .endInGroup
    | some t => failBack (t.size + 2) (.unknownExtension ("?P" ++ t.text))
where
  /-- Fails unless the group may be referred to inside of a look-behind. -/
  checkBound (g : Nat) : Reading Unit := do
    if let some bound := (← get).bound then
      if bound ≤ g then failBack 0 .groupOfSameLookBehind

/-- Opens a look ahead. -/
def openAhead (start : Nat) (negated : Bool) : Reading Unit :=
  enterAlike start (.ahead negated)

/-- Reads what follows an angle bracket and opens a look behind. A look-behind that is not inside of
another one forbids references to the groups that it opens. -/
def openBehind (start : Nat) : Reading Unit := do
  match ← nextToken with
  | none => failBack 0 .endInGroup
  | some t =>
    if t = .plain '=' || t = .plain '!' then
      let s ← get
      set { s with bound := some (s.bound.getD s.groups.next) }
      enterAlike start (.behind (t = .plain '!') s.bound)
    else failBack (t.size + 2) (.unknownExtension ("?<" ++ t.text))

/-- The group that a condition is about: one of a name, or a number, which may turn out to exist
later. -/
def conditionGroup (name : Text) : Reading Nat := do
  if isIdentifier name then groupNamed name
  else
    match name.toInteger? with
    | some (.ofNat g) =>
      if g = 0 then failBack (name.length + 1) .badGroupNumber
      if groupLimit ≤ g then failBack (name.length + 1) (.unknownGroup g)
      let s ← get
      if (s.promises.lookup g).isNone then
        set { s with promises := (g, s.source.pos - (name.length + 1)) :: s.promises }
      return g
    | _ => failBack (name.length + 1) (.badGroupName name)

/-- Reads what a condition is about and opens its branches. -/
def openCondition (start : Nat) : Reading Unit := do
  let name ← readName ')' .group
  let g ← conditionGroup name
  let s ← get
  if let some bound := s.bound then
    if (s.groups.closed? g).isNone then failBack 0 .openGroup
    if bound ≤ g then failBack 0 .groupOfSameLookBehind
  enterAlike start (.branch g)

/-- Reads flags and opens their group, or turns them on for the whole pattern, for which they must come
before everything else. -/
def openFlags (start : Nat) (first : Token) : Reading Unit := do
  match ← readFlags first with
  | some (on, off) =>
    let s ← get
    enter start (.flagged on off) ((s.level.verbose || on.verbose) && !off.verbose)
  | none =>
    let s ← get
    if !(s.brackets.isEmpty && s.level.finished.isEmpty && s.level.parts.isEmpty) then
      failAt start .lateGlobalFlags
    set { s with level := { s.level with verbose := s.flags.verbose } }

/-- Reads what stands between an opening bracket at `start` and the inside of the group. -/
def openGroup (start : Nat) : Reading Unit := do
  if !(← accept '?') then openCapture start none
  else
    match ← nextToken with
    | none => failBack 0 .endInGroup
    | some (.plain 'P') => openNamed start
    | some (.plain ':') => enterAlike start .plain
    | some (.plain '#') =>
      if !(← skipThrough ')') then failAt start .unterminatedComment
    | some (.plain '=') => openAhead start false
    | some (.plain '!') => openAhead start true
    | some (.plain '<') => openBehind start
    | some (.plain '(') => openCondition start
    | some (.plain '>') => enterAlike start .atomic
    | some t =>
      if t.flag?.isSome || t = .plain '-' then openFlags start t
      else failBack (t.size + 1) (.unknownExtension ("?" ++ t.text))

end Reading

end TextShell
