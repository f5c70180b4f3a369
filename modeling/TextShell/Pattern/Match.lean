import TextShell.Pattern.Lead
import TextShell.Pattern.Reader
import TextShell.Pattern.Repetition

/-!
# Matching a pattern

A pattern succeeds at a place if one of its ways leads to a place from which what follows succeeds, and
the first such way counts.

## Main Definitions

* `Surroundings` — what stands around a part of a pattern
* `Pattern.run` — the first success of a pattern before a continuation
* `Regex.search?`, `Regex.found` — the first match in a text, and whether there is one
* `Regex.misplaces` — whether that match leaves a group that ends before it begins
-/

namespace TextShell

/-- Whether a word character stands at an offset. -/
def wordAt (flags : Flags) (text : Array Char) (i : Nat) : Bool :=
  match text[i]? with
  | none => false
  | some c => Category.word.holds flags.unicode c.toNat

/-- Whether a word character stands before an offset. -/
def wordBefore (flags : Flags) (text : Array Char) : Nat → Bool
  | 0 => false
  | i + 1 => wordAt flags text i

/-- Whether a place is where a word begins or ends. -/
def atBoundary (flags : Flags) (text : Array Char) (pos : Nat) : Bool :=
  wordBefore flags text pos != wordAt flags text pos

/-- Whether an anchor holds at a place. The empty text has no place between characters, so it has
neither boundaries nor places that are none. -/
def Anchor.holds (flags : Flags) (text : Array Char) (pos : Nat) : Anchor → Bool
  | .textStart => pos == 0
  | .textEnd => pos == text.size
  | .lineStart => pos == 0 || flags.multiline && text[pos - 1]? == some '\n'
  | .lineEnd =>
    pos == text.size || text[pos]? == some '\n' && (flags.multiline || pos + 1 == text.size)
  | .boundary => text.size != 0 && atBoundary flags text pos
  | .notBoundary => text.size != 0 && !atBoundary flags text pos

/-- Whether the `n` characters at two offsets are the same, in either case if case is ignored. -/
def sameText (flags : Flags) (text : Array Char) (i j n : Nat) : Bool :=
  let f : Folding := ⟨flags.unicode⟩
  (List.range n).all fun d =>
    match text[i + d]?, text[j + d]? with
    | some x, some y =>
      x == y || flags.ignoreCase && f.lower x.toNat == f.lower y.toNat
    | _, _ => false

/-- What stands around a part of a pattern. -/
structure Surroundings where
  /-- The flags that hold for the part. -/
  flags : Flags
  /-- Whether the part stands in a repetition that may be given back. -/
  looping : Bool := false
  /-- The character that must follow, if one comes next. -/
  follower : Option Nat := none

namespace Surroundings

/-- The same where something else comes next than a character. -/
def closed (c : Surroundings) : Surroundings :=
  { c with follower := none }

/-- What stands around a part that another pattern follows. -/
def before (c : Surroundings) (q : Pattern) : Surroundings :=
  match q.opening false c.flags with
  | .nothing => c
  | .character x => { c with follower := some x }
  | _ => c.closed

end Surroundings

namespace Pattern

/-- Whether the pattern is a choice between alternatives. -/
def isChoice : Pattern → Bool
  | .alt _ _ => true
  | _ => false

/-- Tries one of several alternatives, unless its first character already tells that it fails. -/
def tryOne (text : Array Char) (c : Surroundings) (p : Pattern) (m : Matcher) : Matcher :=
  fun s k =>
    if (p.opening false c.flags).allows text s.pos then
      (m s.settled k).orElse fun t => .failed (s.retry c.looping t).trail
    else .failed s.trail

/-- The first success of a pattern at a place before a continuation. -/
def run (text : Array Char) : Surroundings → Pattern → Matcher
  | _, .empty => fun s k => k s
  | c, .char t => fun s k =>
    match text[s.pos]? with
    | none => .failed s.trail
    | some x => if t.accepts c.flags x.toNat then k (s.moveTo (s.pos + 1)) else .failed s.trail
  | c, .anchor a => fun s k => if a.holds c.flags text s.pos then k s else .failed s.trail
  | c, .backref g => fun s k =>
    match s.group? g with
    | none => .failed s.trail
    | some (i, j) =>
      if sameText c.flags text i s.pos (j - i) then k (s.moveTo (s.pos + (j - i)))
      else .failed s.trail
  | c, .seq p q => fun s k => run text (c.before q) p s fun s' => run text c q s' k
  | c, .alt p q => fun s k =>
    (tryOne text c p (run text c.closed p) s k).orElse fun t =>
      if q.isChoice then run text c.closed q { s with trail := t } k
      else tryOne text c q (run text c.closed q) { s with trail := t } k
  | c, .group g p => fun s k =>
    run text c.closed p (s.beginGroup g) fun s' => k (s'.endGroup g)
  | c, .withFlags on off p => fun s k =>
    run text { c with flags := c.flags.within on off } p s k
  | c, .atomic p => (run text c.closed p).atomic
  | c, .look none false p => fun s k =>
    match (run text c.closed p).first s with
    | .matched s' => k (s'.moveTo s.pos)
    | .failed t => .failed t
  | c, .look none true p => fun s k =>
    match (run text c.closed p).first s with
    | .matched s' => .failed s'.trail
    | .failed t => k (s.retry c.looping t)
  | c, .look (some w) false p => fun s k =>
    if s.pos < w.least then .failed s.trail
    else
      match (run text c.closed p).first (s.moveTo (s.pos - w.least)) with
      | .matched s' => k (s'.moveTo s.pos)
      | .failed t => .failed t
  | c, .look (some w) true p => fun s k =>
    if s.pos < w.least then k s
    else
      match (run text c.closed p).first (s.moveTo (s.pos - w.least)) with
      | .matched s' => .failed s'.trail
      | .failed t => k (s.retry c.looping t)
  | c, .cond g yes no => fun s k =>
    if (s.group? g).isSome then run text (if no = .empty then c else c.closed) yes s k
    else run text c no s k
  | c, .iterate greed least most p =>
    match p.single? c.flags with
    | some (flags, t) =>
      Single.iterate ⟨fun x => t.accepts flags x.toNat, t.strides flags⟩ text c.looping c.follower
        greed least most
    | none =>
      (run text { c.closed with looping := c.looping || greed != .possessive } p).iterate
        c.looping text.size greed least most

end Pattern

namespace Regex

/-- Whether a match may begin at an offset. A pattern that begins with a set is tried only where a
character of that set stands, and the classes in the set are then those of the alphabet of the whole
pattern, whatever alphabet the part chooses. If the pattern begins neither with a character nor with a
set, the text that is left must be about as long as a match is at least. -/
def mayBegin (r : Regex) (text : Array Char) (i : Nat) : Bool :=
  match r.pattern.lead r.flags with
  | .character => true
  | .set t => text[i]?.any fun x => t.accepts { r.flags with ignoreCase := false } x.toNat
  | .free => decide (i + r.least ≤ text.size + 1)

/-- The end of the match that begins at an offset, if there is one. -/
def matchAt? (r : Regex) (text : Array Char) (i : Nat) : Option Spot :=
  if r.mayBegin text i then
    (r.pattern.run text { flags := r.flags } ⟨i, { reach := i }⟩ Spot.done).success?
  else none

/-- The end of the first match in a text, if there is one. -/
def search? (r : Regex) (line : Text) : Option Spot :=
  let text := line.toArray
  if r.least ≤ text.size then (List.range (text.size + 1)).findSome? (r.matchAt? text) else none

/-- Whether the pattern matches somewhere in a text. -/
def found (r : Regex) (line : Text) : Bool :=
  (r.search? line).isSome

/-- Whether the first match in a text leaves a group that ends before it begins. -/
def misplaces (r : Regex) (line : Text) : Bool :=
  (r.search? line).any fun s => s.trail.marks.isCrossed

end Regex

end TextShell
