import TextShell.Pattern.Alternatives
import TextShell.Pattern.ClassSet
import TextShell.Pattern.GroupOpening

/-!
# The reader of patterns

## Main Definitions

* `Reading.readElement` — reads one element of a pattern
* `Regex` — a pattern with the flags of the whole
* `Regex.read` — reads a whole pattern
-/

namespace TextShell

namespace Reading

/-- Ends an alternative at a bar. A condition has two branches at most. -/
def endAlternative : Reading Unit := do
  let s ← get
  match s.brackets with
  | ⟨.branch g, start, outer⟩ :: brackets =>
    let _ ← nextToken
    modify fun s =>
      { s with
        brackets := ⟨.otherBranch g (.ofList s.level.sequence), start, outer⟩ :: brackets
        level := { verbose := s.level.verbose } }
  | ⟨.otherBranch _ _, _, _⟩ :: _ => failBack 0 .thirdBranch
  | _ =>
    let _ ← nextToken
    modify fun s =>
      { s with
        level := { s.level with finished := s.level.sequence :: s.level.finished, parts := [] } }

/-- Ends the group whose bracket is closed. -/
def endGroup (b : Bracket) : Reading Unit := do
  let s ← get
  let inside := s.level.pattern
  set { s with level := b.outer, brackets := s.brackets.tail }
  match b.opener with
  | .plain => add inside
  | .flagged on off => add (.withFlags on off inside)
  | .atomic => add (.atomic inside)
  | .ahead negated => add (.look none negated inside)
  | .behind negated bound =>
    modify fun s => { s with bound := bound }
    add (.look (some (inside.width s.groups.width)) negated inside)
  | .capture g =>
    modify fun s => { s with groups := s.groups.close g (inside.width s.groups.width) }
    add (.group g inside)
  | .branch g => add (.cond g (.ofList s.level.sequence) .empty)
  | .otherBranch g yes => add (.cond g yes (.ofList s.level.sequence))

/-- A blank that is skipped where blanks are skipped. -/
def isSkipped (t : Token) : Bool :=
  match t with
  | .plain c => isAsciiBlank c.toNat
  | .escaped _ => false

/-- Adds a pattern of which it is known whether it is a condition on a place. -/
def addEscaped (p : Pattern) : Reading Unit :=
  match p with
  | .anchor a => addAnchor a
  | p => add p

/-- Reads what an ordinary or a special character begins, after that character at `start` was read. -/
def readFrom (start : Nat) : Token → Reading Unit
  | .escaped c => do addEscaped (← readEscape c)
  | .plain '[' => do add (← readClassSet start)
  | .plain '*' => quantify start 0 none
  | .plain '+' => quantify start 1 none
  | .plain '?' => quantify start 0 (some 1)
  | .plain '\x7b' => do
    match ← readBounds? with
    | some (least, most) => quantify start least most
    | none => add (.char (.code '\x7b'.toNat))
  | .plain '.' => add (.char .any)
  | .plain '(' => openGroup start
  | .plain '^' => addAnchor .lineStart
  | .plain '$' => addAnchor .lineEnd
  | .plain c => add (.char (.code c.toNat))

/-- Reads one element, which the token `t` begins. -/
def readElement (t : Token) : Reading Unit := do
  let s ← get
  if t = .plain '|' then endAlternative
  else
    let _ ← nextToken
    match t, s.brackets with
    | .plain ')', b :: _ => endGroup b
    | _, _ =>
      if s.level.verbose && isSkipped t then pure ()
      else if s.level.verbose && t = .plain '#' then
        let _ ← skipThrough '\n'
      else readFrom s.source.pos t

/-- Reads elements up to the end of the pattern or a bracket that closes nothing. Every round reads a
token, so the number of tokens left is fuel enough. -/
def readElements : Nat → Reading Unit
  | 0 => pure ()
  | fuel + 1 => do
    match ← peek with
    | none => pure ()
    | some t =>
      if t = .plain ')' && (← get).brackets.isEmpty then pure ()
      else
        readElement t
        readElements fuel

end Reading

/-- A pattern with the flags of the whole. -/
structure Regex where
  flags : Flags
  pattern : Pattern
  /-- How many characters a match has at least. -/
  least : Nat
  deriving DecidableEq, Repr

namespace Regex

/-- The flags of a pattern that chooses no alphabet are those of every script. -/
def settleAlphabet (f : Flags) : Flags :=
  { f with unicode := f.unicode || !f.ascii }

/-- Reads a whole pattern and checks what can only be checked at the end. -/
def readWhole : Reading Regex := do
  let start ← get
  Reading.moveTo start.source.rest start.source.pos
  Reading.readElements (start.source.rest.length + 1)
  let s ← get
  if let some b := s.brackets.head? then Reading.failAt b.start .unterminatedGroup
  if s.flags.ascii && s.flags.unicode then Reading.exceed .alphabets
  if !s.source.rest.isEmpty then Reading.failBack 0 .unbalanced
  match s.promises.reverse.find? fun (g, _) => s.groups.next ≤ g with
  | some (g, offset) => Reading.failAt offset (.unknownGroup g)
  | none =>
    let p := s.level.pattern
    return ⟨settleAlphabet s.flags, p, (p.width s.groups.width).least⟩

/-- The state before a pattern is read. -/
def start (flags : Flags) (pattern : Text) : ReadState :=
  let (tokens, dangling) := Token.ofText pattern
  { source := { pattern := pattern, dangling := dangling, rest := tokens, pos := 0 }
    flags := flags
    level := { verbose := flags.verbose } }

/-- Reads a whole pattern. -/
def read (flags : Flags) (pattern : Text) : Except PatternError Regex :=
  (readWhole.run (start flags pattern)).map Prod.fst

/-- Whether a pattern of this width always matches the same number of characters. Numbers from that
of unlimited repetition on do not count as known. -/
def isFixed (w : Width) : Bool :=
  decide (w.most = some w.least) && decide (w.least < repetitionLimit)

/-- The first look-behind of no fixed width, or repetition where nothing may be repeated, that makes a
pattern unusable. -/
def complaint? (template : Bool) : Pattern → Option Complaint
  | .seq p q => (complaint? template p).or (complaint? template q)
  | .alt p q => (complaint? template p).or (complaint? template q)
  | .group _ p => complaint? template p
  | .withFlags _ _ p => complaint? template p
  | .atomic p => complaint? template p
  | .look none _ p => complaint? template p
  | .look (some w) _ p =>
    if isFixed w then complaint? template p else some .lookBehindNotFixed
  | .cond _ yes no => (complaint? template yes).or (complaint? template no)
  | .iterate greed _ _ p => if template then some (.repeatInTemplate greed) else complaint? template p
  | _ => none

/-- Whether a pattern looks behind farther than the machine can. -/
def looksTooFar : Pattern → Bool
  | .seq p q => looksTooFar p || looksTooFar q
  | .alt p q => looksTooFar p || looksTooFar q
  | .group _ p => looksTooFar p
  | .withFlags _ _ p => looksTooFar p
  | .atomic p => looksTooFar p
  | .look none _ p => looksTooFar p
  | .look (some w) _ p => decide (w.least > 0x7fffffff) || looksTooFar p
  | .cond _ yes no => looksTooFar yes || looksTooFar no
  | .iterate _ _ _ p => looksTooFar p
  | _ => false

/-- A pattern that is ready to be matched. -/
def compile (flags : Flags) (pattern : Text) : Except PatternError Regex :=
  match read flags pattern with
  | .error e => .error e
  | .ok r =>
    match complaint? r.flags.template r.pattern with
    | some c => .error (.malformed c none)
    | none => if looksTooFar r.pattern then .error (.excess .lookBehind) else .ok r

end Regex

end TextShell
