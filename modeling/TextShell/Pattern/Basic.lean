import TextShell.Text.Basic

/-!
# Patterns

A pattern describes texts. It is a tree over tests of single characters, anchors and references to
what a group matched; the flags that govern a part of it are written into the tree.

## Main Definitions

* `Flags` — how a pattern is read and matched
* `CharTest` — what one character must satisfy
* `Pattern` — the tree
* `Width` — how many characters a pattern may match
* `Pattern.ofList`, `Pattern.toList` — sequences as lists
-/

namespace TextShell

/-- How a pattern is read and matched. -/
structure Flags where
  /-- Letters match in either case. -/
  ignoreCase : Bool := false
  /-- The line anchors hold at every line end. -/
  multiline : Bool := false
  /-- The dot matches a line feed. -/
  dotAll : Bool := false
  /-- Blanks and comments in the pattern are skipped. -/
  verbose : Bool := false
  /-- Character classes and letter case are those of the ASCII alphabet. -/
  ascii : Bool := false
  /-- Character classes and letter case are those of every script. -/
  unicode : Bool := false
  /-- Nothing may be repeated. -/
  template : Bool := false
  deriving DecidableEq, Repr

namespace Flags

/-- The flags of both. -/
def union (f g : Flags) : Flags where
  ignoreCase := f.ignoreCase || g.ignoreCase
  multiline := f.multiline || g.multiline
  dotAll := f.dotAll || g.dotAll
  verbose := f.verbose || g.verbose
  ascii := f.ascii || g.ascii
  unicode := f.unicode || g.unicode
  template := f.template || g.template

/-- The flags of the first that the second lacks. -/
def minus (f g : Flags) : Flags where
  ignoreCase := f.ignoreCase && !g.ignoreCase
  multiline := f.multiline && !g.multiline
  dotAll := f.dotAll && !g.dotAll
  verbose := f.verbose && !g.verbose
  ascii := f.ascii && !g.ascii
  unicode := f.unicode && !g.unicode
  template := f.template && !g.template

/-- Whether the two share a flag. -/
def meets (f g : Flags) : Bool :=
  f.ignoreCase && g.ignoreCase || f.multiline && g.multiline || f.dotAll && g.dotAll ||
    f.verbose && g.verbose || f.ascii && g.ascii || f.unicode && g.unicode ||
    f.template && g.template

/-- The flags inside a group that turns some on and others off. A choice of alphabet replaces the
one outside. -/
def within (f on off : Flags) : Flags :=
  let kept := if on.ascii || on.unicode then { f with ascii := false, unicode := false } else f
  (kept.union on).minus off

end Flags

/-- The classes of characters that have a letter of their own. -/
inductive Category where
  | digit
  | blank
  | word
  deriving DecidableEq, Repr

/-- A member of a bracketed set of characters. Code points are numbers, so that a set may name
surrogates, which no text holds. -/
inductive ClassItem where
  /-- One code point. -/
  | code (c : Nat)
  /-- The code points from one to another. -/
  | range (lo hi : Nat)
  /-- A class, or the characters outside of it. -/
  | category (k : Category) (negated : Bool)
  deriving DecidableEq, Repr

/-- What one character must satisfy. -/
inductive CharTest where
  /-- To be a code point. -/
  | code (c : Nat)
  /-- To be any but one code point. -/
  | notCode (c : Nat)
  /-- Nothing, or not to be a line feed. -/
  | any
  /-- To be in a set, or outside of it. -/
  | oneOf (negated : Bool) (items : List ClassItem)
  deriving DecidableEq, Repr

/-- A condition on a place in the text. -/
inductive Anchor where
  | lineStart
  | lineEnd
  | textStart
  | textEnd
  | boundary
  | notBoundary
  deriving DecidableEq, Repr

/-- Which number of repetitions is tried first, and whether others are. -/
inductive Greed where
  /-- As many as possible first. -/
  | greedy
  /-- As few as possible first. -/
  | lazy
  /-- As many as possible, and no other number. -/
  | possessive
  deriving DecidableEq, Repr

/-- How many characters a pattern may match: at least `least`, and at most `most` if there is a
bound. -/
structure Width where
  least : Nat
  most : Option Nat
  deriving DecidableEq, Repr

namespace Width

/-- The width of a fixed number of characters. -/
def exactly (n : Nat) : Width := ⟨n, some n⟩

/-- The width of two patterns in a row. -/
def add (v w : Width) : Width where
  least := v.least + w.least
  most :=
    match v.most, w.most with
    | some a, some b => some (a + b)
    | _, _ => none

/-- The width of either of two patterns. -/
def either (v w : Width) : Width where
  least := min v.least w.least
  most :=
    match v.most, w.most with
    | some a, some b => some (max a b)
    | _, _ => none

/-- The width of a pattern repeated from `least` to `most` times. -/
def times (w : Width) (least : Nat) (most : Option Nat) : Width where
  least := w.least * least
  most :=
    match w.most, most with
    | some 0, _ => some 0
    | _, some 0 => some 0
    | some a, some n => some (a * n)
    | _, _ => none

end Width

/-- A pattern. -/
inductive Pattern where
  /-- Matches the empty text. -/
  | empty
  /-- Matches one character. -/
  | char (t : CharTest)
  /-- Matches the empty text at certain places. -/
  | anchor (a : Anchor)
  /-- Matches what a group matched. -/
  | backref (g : Nat)
  /-- One pattern, then another. -/
  | seq (p q : Pattern)
  /-- The first of two patterns that leads to a match. -/
  | alt (p q : Pattern)
  /-- Records what the pattern matches under a number. -/
  | group (g : Nat) (p : Pattern)
  /-- Turns flags on and off for a part. -/
  | withFlags (on off : Flags) (p : Pattern)
  /-- The first match of the pattern, and no other. -/
  | atomic (p : Pattern)
  /-- Asks whether the pattern matches ahead, or behind over a width, without moving on. -/
  | look (behind : Option Width) (negated : Bool) (p : Pattern)
  /-- Goes on with one of two patterns, as a group has matched or not. -/
  | cond (g : Nat) (yes no : Pattern)
  /-- Repeats the pattern from `least` to `most` times. -/
  | iterate (greed : Greed) (least : Nat) (most : Option Nat) (p : Pattern)
  deriving DecidableEq, Repr

namespace Pattern

/-- The patterns of a list one after the other. -/
def ofList : List Pattern → Pattern
  | [] => .empty
  | [p] => p
  | p :: ps => .seq p (ofList ps)

/-- The parts of a sequence. -/
def toList : Pattern → List Pattern
  | .empty => []
  | .seq p q => p.toList ++ q.toList
  | p => [p]

/-- The first of the patterns of a list that leads to a match. A last one that is a choice itself is
set apart, so that it remains one alternative. -/
def oneOfList : List Pattern → Pattern
  | [] => .empty
  | [.alt p q] => .seq .empty (.alt p q)
  | [p] => p
  | p :: ps => .alt p (oneOfList ps)

/-- A pattern that matches in at most one way wherever it stands, and holds no other pattern. -/
def isUnit : Pattern → Bool
  | .char _ => true
  | .anchor _ => true
  | .backref _ => true
  | _ => false

/-- How many characters a pattern may match when the groups have the given widths. -/
def width (groups : Nat → Width) : Pattern → Width
  | .empty => .exactly 0
  | .char _ => .exactly 1
  | .anchor _ => .exactly 0
  | .backref g => groups g
  | .seq p q => (p.width groups).add (q.width groups)
  | .alt p q => (p.width groups).either (q.width groups)
  | .group _ p => p.width groups
  | .withFlags _ _ p => p.width groups
  | .atomic p => p.width groups
  | .look _ _ _ => .exactly 0
  | .cond _ yes no => (yes.width groups).either (no.width groups)
  | .iterate _ least most p => (p.width groups).times least most

end Pattern

end TextShell
