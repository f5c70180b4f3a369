import TextShell.Pattern.Trail

/-!
# Repetitions

A repetition that did not move on is not followed by another. One that may move back, which happens
only where a possessive repetition inside of it does, does so at most as often as a budget allows.

A possessive repetition goes on from the place that its last attempt, the one that failed, had reached.
So it is not the atomic group around a greedy repetition, which goes on from where the attempt began.

## Main Definitions

* `Matcher.iterate` — a pattern repeated
* `Single`, `Single.iterate` — the same for a pattern of one character, which is counted at once
-/

namespace TextShell

namespace Matcher

/-- Repeats exactly `n` times before a continuation. -/
def exactly (m : Matcher) : Nat → Matcher
  | 0, s, k => k s
  | n + 1, s, k => (m s.settled fun s' => exactly m n s' k).backAt s.pos

/-- Whether a repetition moved on, within a text of `size` characters. -/
def MovedOn (size : Nat) (s s' : Spot) : Prop :=
  s.pos < s'.pos ∧ s'.pos ≤ size

instance (size : Nat) (s s' : Spot) : Decidable (MovedOn size s s') :=
  inferInstanceAs (Decidable (_ ∧ _))

/-- Whether a repetition moved back and may do so. -/
def MovedBack (budget : Nat) (s s' : Spot) : Prop :=
  s'.pos < s.pos ∧ 0 < budget

instance (budget : Nat) (s s' : Spot) : Decidable (MovedBack budget s s') :=
  inferInstanceAs (Decidable (_ ∧ _))

/-- Goes on after the last repetition. -/
def leave (s : Spot) (k : Continuation) : Attempt :=
  (k s.settled).backAt s.pos

/-- Repeats up to `most` times, more often rather than less. -/
def greedily (m : Matcher) (size : Nat) (budget : Nat) (most : Option Nat) (s : Spot)
    (k : Continuation) : Attempt :=
  if most = some 0 then leave s k
  else
    (m s.settled fun s' =>
      if _h : MovedOn size s s' then greedily m size budget (most.map (· - 1)) s' k
      else if _h' : MovedBack budget s s' then
        greedily m size (budget - 1) (most.map (· - 1)) s' k
      else leave s' k).orElse fun _ => leave s k
termination_by (budget, size - s.pos)
decreasing_by
  · have := _h.1
    have := _h.2
    exact Prod.Lex.right _ (by omega)
  · have := _h'.2
    exact Prod.Lex.left _ _ (by omega)

/-- Goes on after the last repetition of a lazy one, and puts the marks back if that fails. -/
def leaveLazily (looping : Bool) (s : Spot) (k : Continuation) : Attempt :=
  (k s.settled).orElse fun t => .failed ((s.retry looping t).trail.from s.pos)

/-- Repeats up to `most` times, less often rather than more. -/
def lazily (m : Matcher) (looping : Bool) (size : Nat) (budget : Nat) (most : Option Nat)
    (s : Spot) (k : Continuation) : Attempt :=
  (leaveLazily looping s k).orElse fun t =>
    if most = some 0 then .failed t
    else
      (m { s with trail := t } fun s' =>
        if _h : MovedOn size s s' then lazily m looping size budget (most.map (· - 1)) s' k
        else if _h' : MovedBack budget s s' then
          lazily m looping size (budget - 1) (most.map (· - 1)) s' k
        else leaveLazily looping s' k).backAt s.pos
termination_by (budget, size - s.pos)
decreasing_by
  · have := _h.1
    have := _h.2
    exact Prod.Lex.right _ (by omega)
  · have := _h'.2
    exact Prod.Lex.left _ _ (by omega)

/-- The first success of a matcher that nothing follows. -/
def first (m : Matcher) (s : Spot) : Attempt :=
  m s.settled Spot.done

/-- Repeats exactly `n` times, each time in the first way. -/
def firstTimes (m : Matcher) : Nat → Spot → Attempt
  | 0, s => .matched s
  | n + 1, s =>
    match m.first s with
    | .matched s' => firstTimes m n s'
    | .failed t => .failed t

/-- Repeats up to `most` times, as often as possible, each time in the first way. The last attempt
fails unless there is a bound, and the place that it reached is where the repetition ends; its marks are
put back, but the place is not. In `aca` the pattern `^(?:ab?c)*+a$` is not found: the second attempt to
repeat it fails behind the last letter. -/
def possessively (m : Matcher) (size : Nat) (budget : Nat) (most : Option Nat) (s : Spot) : Spot :=
  if most = some 0 then s
  else
    match m.first s with
    | .failed t => ⟨t.reach, s.trail.from t.reach⟩
    | .matched s' =>
      if _h : MovedOn size s s' then possessively m size budget (most.map (· - 1)) s'
      else if _h' : MovedBack budget s s' then
        possessively m size (budget - 1) (most.map (· - 1)) s'
      else s'
termination_by (budget, size - s.pos)
decreasing_by
  · have := _h.1
    have := _h.2
    exact Prod.Lex.right _ (by omega)
  · have := _h'.2
    exact Prod.Lex.left _ _ (by omega)

/-- Only the first way of a matcher. -/
def atomic (m : Matcher) : Matcher :=
  fun s k =>
    match m.first s with
    | .matched s' => k s'
    | .failed t => .failed (t.from s.pos)

/-- Repeats from `least` to `most` times in a text of `size` characters. Whether there is a repetition
around this one decides how a lazy one puts back the marks. -/
def iterate (m : Matcher) (looping : Bool) (size : Nat) (greed : Greed) (least : Nat)
    (most : Option Nat) : Matcher :=
  let more := most.map (· - least)
  match greed with
  | .greedy => fun s k => m.exactly least s fun s' => m.greedily size size more s' k
  | .lazy => fun s k => m.exactly least s fun s' => m.lazily looping size size more s' k
  | .possessive => fun s k =>
    match m.firstTimes least s.settled with
    | .matched s' => k (m.possessively size size more s')
    | .failed t => .failed (t.from s.pos)

end Matcher

/-- A pattern of one character. -/
structure Single where
  /-- Which characters match. -/
  test : Char → Bool
  /-- Whether counting them carries the search along. -/
  strides : Bool

namespace Single

/-- How many of the next `n` characters match in a row. -/
def run (u : Single) (text : Array Char) : Nat → Nat → Nat
  | 0, _ => 0
  | n + 1, pos =>
    match text[pos]? with
    | none => 0
    | some c => if u.test c then run u text n (pos + 1) + 1 else 0

/-- How many of the next characters match in a row, at most `most` of them. -/
def count (u : Single) (text : Array Char) (pos : Nat) (most : Option Nat) : Nat :=
  let left := text.size - pos
  u.run text ((most.map (min left)).getD left) pos

/-- The trail after `n` characters from a place were counted. -/
def counted (u : Single) (s : Spot) (n : Nat) : Trail :=
  s.trail.from (if u.strides then s.pos + n else s.pos)

/-- Whether the continuation may succeed at a place, as far as the character that must follow tells. -/
def mayFollow (text : Array Char) (pos : Nat) : Option Nat → Bool
  | none => true
  | some c => text[pos]?.any fun x => x.toNat == c

/-- Tries the continuation after `n` characters if it may succeed there, and goes on otherwise. -/
def tryAfter (text : Array Char) (looping : Bool) (follower : Option Nat) (s : Spot) (k : Continuation)
    (n : Nat) (t : Trail) (next : Trail → Attempt) : Attempt :=
  let pos := s.pos + n
  if mayFollow text pos follower then
    (k ⟨pos, t.from pos⟩).orElse fun t' => next (s.retry looping t').trail
  else next t

/-- Tries the continuation after `least + extra` characters, then after fewer, down to `least`. -/
def giveBack (text : Array Char) (looping : Bool) (follower : Option Nat) (least : Nat) (s : Spot)
    (k : Continuation) : Nat → Trail → Attempt
  | 0, t => tryAfter text looping follower s k least t .failed
  | extra + 1, t =>
    tryAfter text looping follower s k (least + extra + 1) t
      (giveBack text looping follower least s k extra)

/-- Tries the continuation at `pos`, then after one more character as long as they match, at most
`extra` of them. -/
def takeMore (u : Single) (text : Array Char) (looping : Bool) (s : Spot) (k : Continuation)
    (pos : Nat) (extra : Option Nat) (t : Trail) : Attempt :=
  (k ⟨pos, t.from pos⟩).orElse fun t' =>
    let t'' := (s.retry looping t').trail.from pos
    if h : pos < text.size then
      if !u.test text[pos] then .failed t''
      else
        let onward := if u.strides then t''.from (pos + 1) else t''
        if extra = some 0 then .failed onward
        else takeMore u text looping s k (pos + 1) (extra.map (· - 1)) onward
    else .failed t''
termination_by text.size - pos

/-- Repeats from `least` to `most` times. The character that must follow is known if it is `follower`. -/
def iterate (u : Single) (text : Array Char) (looping : Bool) (follower : Option Nat) (greed : Greed)
    (least : Nat) (most : Option Nat) : Matcher :=
  fun s k =>
    if text.size - s.pos < least then .failed s.trail
    else
      let n := u.count text s.pos (if greed = .lazy then some least else most)
      let t := u.counted s n
      if n < least then .failed t
      else
        match greed with
        | .greedy => giveBack text looping follower least s k (n - least) t
        | .lazy => takeMore u text looping s k (s.pos + n) (most.map (· - least)) t
        | .possessive => k ⟨s.pos + n, t⟩

end Single

end TextShell
