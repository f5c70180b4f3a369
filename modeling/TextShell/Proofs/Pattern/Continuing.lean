import TextShell.Pattern.Match

/-!
# Asking less of what follows

What follows a pattern decides which of its ways counts, so a pattern that is followed by more may
end elsewhere, and leave other groups.  It does not succeed more often: as long as the two runs have
not come to a place from which what follows succeeds in the one, they fail together, with the same
trails, and so they try the same ways in the same order.

The comparison is one of attempts: the one *covers* the other if it succeeds or if they are the same
(`Attempt.Covers`).  Every way to build a matcher keeps it, hence every pattern does
(`Pattern.run_monotone`).  What is matched without regard to what follows, as the inside of an
atomic group or a look-around, is the same in both runs anyway.

## Main Definitions

* `Attempt.Succeeds`, `Attempt.Covers` — success, and the comparison of attempts
* `Matcher.Monotone` — a matcher that succeeds where it does with more to follow
-/

namespace TextShell

namespace Attempt

/-- An attempt is a success. -/
def Succeeds (a : Attempt) : Prop :=
  ∃ s, a = .matched s

/-- The first attempt succeeds, or the two are the same. -/
def Covers (a b : Attempt) : Prop :=
  a.Succeeds ∨ a = b

variable {a b : Attempt}

theorem succeeds_iff : a.Succeeds ↔ a.success?.isSome = true := by
  cases a with
  | matched s => exact ⟨fun _ => rfl, fun _ => ⟨s, rfl⟩⟩
  | failed t => exact ⟨nofun, nofun⟩

theorem not_succeeds_failed {t : Trail} : ¬(failed t).Succeeds := by
  rintro ⟨s, h⟩
  cases h

theorem done_succeeds (s : Spot) : s.done.Succeeds :=
  ⟨s.settled, rfl⟩

/-- An attempt under a condition. -/
theorem succeeds_ite {c : Prop} [Decidable c] {t : Trail} :
    (if c then a else failed t).Succeeds ↔ c ∧ a.Succeeds := by
  by_cases hc : c
  · rw [if_pos hc]
    exact (and_iff_right hc).symm
  · rw [if_neg hc]
    exact iff_of_false not_succeeds_failed fun h => hc h.1

theorem Covers.refl (a : Attempt) : a.Covers a :=
  .inr rfl

theorem Covers.succeeds (h : a.Covers b) (hb : b.Succeeds) : a.Succeeds := by
  rcases h with ha | rfl
  · exact ha
  · exact hb

/-- The next attempts are compared where the first ones failed together. -/
theorem Covers.orElse (h : a.Covers b) {next next' : Trail → Attempt}
    (hnext : ∀ t, (next t).Covers (next' t)) : (a.orElse next).Covers (b.orElse next') := by
  rcases h with ⟨s, rfl⟩ | rfl
  · exact .inl ⟨s, rfl⟩
  · cases a with
    | matched s => exact .refl _
    | failed t => exact hnext t

theorem Covers.backAt (h : a.Covers b) (pos : Nat) : (a.backAt pos).Covers (b.backAt pos) :=
  h.orElse fun _ => .refl _

/-- One of two attempts succeeds if either does. -/
theorem orElse_succeeds {next : Trail → Attempt} (h : (a.orElse next).Succeeds) :
    a.Succeeds ∨ ∃ t, (next t).Succeeds := by
  cases a with
  | matched s => exact .inl ⟨s, rfl⟩
  | failed t => exact .inr ⟨t, h⟩

end Attempt

/-- What follows, compared at every place. -/
def Continuation.Covers (k k' : Continuation) : Prop :=
  ∀ s, (k s).Covers (k' s)

/-- Nothing is the least that can be asked. -/
theorem Spot.done_covers (k : Continuation) : Continuation.Covers Spot.done k :=
  fun s => .inl (Attempt.done_succeeds s)

/-- A matcher that succeeds wherever it does with more to follow. -/
def Matcher.Monotone (m : Matcher) : Prop :=
  ∀ (s : Spot) {k k' : Continuation}, k.Covers k' → (m s k).Covers (m s k')

namespace Matcher

variable {m : Matcher} {k k' : Continuation}

theorem Monotone.seq {m' : Matcher} (hm : m.Monotone) (hm' : m'.Monotone) :
    Monotone fun s k => m s fun s' => m' s' k := by
  intro s k k' h
  exact hm s fun s' => hm' s' h

theorem leave_covers (h : k.Covers k') (s : Spot) : (leave s k).Covers (leave s k') :=
  (h s.settled).backAt s.pos

theorem leaveLazily_covers (h : k.Covers k') (looping : Bool) (s : Spot) :
    (leaveLazily looping s k).Covers (leaveLazily looping s k') :=
  (h s.settled).orElse fun _ => .refl _

theorem Monotone.exactly (hm : m.Monotone) (n : Nat) : (m.exactly n).Monotone := by
  induction n with
  | zero => exact fun s _ _ h => h s
  | succ n ih =>
      intro s k k' h
      exact (hm s.settled fun s' => ih s' h).backAt s.pos

theorem Monotone.greedily (hm : m.Monotone) (size budget : Nat) (most : Option Nat) :
    Monotone fun s k => m.greedily size budget most s k := by
  intro s k k' h
  show (m.greedily size budget most s k).Covers (m.greedily size budget most s k')
  induction budget, most, s using greedily.induct size with
  | case1 budget s =>
      rw [Matcher.greedily, Matcher.greedily, if_pos rfl, if_pos rfl]
      exact leave_covers h s
  | case2 budget most s hmost ihon ihback =>
      rw [Matcher.greedily, Matcher.greedily, if_neg hmost, if_neg hmost]
      have hagain : ∀ s', Attempt.Covers
          (if _h : MovedOn size s s' then m.greedily size budget (most.map (· - 1)) s' k
            else if _h' : MovedBack budget s s' then
              m.greedily size (budget - 1) (most.map (· - 1)) s' k
            else leave s' k)
          (if _h : MovedOn size s s' then m.greedily size budget (most.map (· - 1)) s' k'
            else if _h' : MovedBack budget s s' then
              m.greedily size (budget - 1) (most.map (· - 1)) s' k'
            else leave s' k') := by
        intro s'
        split
        · exact ihon s' ‹_›
        · split
          · exact ihback s' ‹_›
          · exact leave_covers h s'
      exact (hm s.settled hagain).orElse fun _ => leave_covers h s

theorem Monotone.lazily (hm : m.Monotone) (looping : Bool) (size budget : Nat) (most : Option Nat) :
    Monotone fun s k => m.lazily looping size budget most s k := by
  intro s k k' h
  show (m.lazily looping size budget most s k).Covers (m.lazily looping size budget most s k')
  induction budget, most, s using lazily.induct size with
  | case1 budget most s ihon ihback =>
      rw [Matcher.lazily, Matcher.lazily]
      have hagain : ∀ s', Attempt.Covers
          (if _h : MovedOn size s s' then m.lazily looping size budget (most.map (· - 1)) s' k
            else if _h' : MovedBack budget s s' then
              m.lazily looping size (budget - 1) (most.map (· - 1)) s' k
            else leaveLazily looping s' k)
          (if _h : MovedOn size s s' then m.lazily looping size budget (most.map (· - 1)) s' k'
            else if _h' : MovedBack budget s s' then
              m.lazily looping size (budget - 1) (most.map (· - 1)) s' k'
            else leaveLazily looping s' k') := by
        intro s'
        split
        · exact ihon s' ‹_›
        · split
          · exact ihback s' ‹_›
          · exact leaveLazily_covers h looping s'
      refine (leaveLazily_covers h looping s).orElse fun t => ?_
      split
      · exact .refl _
      · exact (hm _ hagain).backAt s.pos

/-- Only what follows the group is compared: its inside is matched in the first way. -/
theorem atomic_monotone (m : Matcher) : m.atomic.Monotone := by
  intro s k k' h
  unfold Matcher.atomic
  cases m.first s with
  | matched s' => exact h s'
  | failed t => exact .refl _

theorem Monotone.iterate (hm : m.Monotone) (looping : Bool) (size : Nat) (greed : Greed)
    (least : Nat) (most : Option Nat) : (m.iterate looping size greed least most).Monotone := by
  cases greed with
  | greedy => exact (hm.exactly least).seq (hm.greedily size size _)
  | «lazy» => exact (hm.exactly least).seq (hm.lazily looping size size _)
  | possessive =>
      intro s k k' h
      unfold Matcher.iterate
      dsimp only
      cases m.firstTimes least s.settled with
      | matched s' => exact h _
      | failed t => exact .refl _

end Matcher

namespace Single

variable {text : Array Char} {looping : Bool} {k k' : Continuation}

theorem tryAfter_covers (h : k.Covers k') (follower : Option Nat) (s : Spot) (n : Nat) (t : Trail)
    {next next' : Trail → Attempt} (hnext : ∀ t, (next t).Covers (next' t)) :
    (tryAfter text looping follower s k n t next).Covers
      (tryAfter text looping follower s k' n t next') := by
  unfold tryAfter
  dsimp only
  split
  · exact (h _).orElse fun t' => hnext _
  · exact hnext t

theorem giveBack_covers (h : k.Covers k') (follower : Option Nat) (least : Nat) (s : Spot)
    (extra : Nat) (t : Trail) :
    (giveBack text looping follower least s k extra t).Covers
      (giveBack text looping follower least s k' extra t) := by
  induction extra generalizing t with
  | zero => exact tryAfter_covers h follower s _ t fun _ => .refl _
  | succ extra ih => exact tryAfter_covers h follower s _ t ih

theorem takeMore_covers (h : k.Covers k') (u : Single) (s : Spot) (pos : Nat) (extra : Option Nat)
    (t : Trail) :
    (u.takeMore text looping s k pos extra t).Covers
      (u.takeMore text looping s k' pos extra t) := by
  induction pos, extra, t using takeMore.induct u text looping s with
  | case1 pos extra t ih =>
      rw [takeMore, takeMore]
      refine (h _).orElse fun t' => ?_
      dsimp only
      split
      · split
        · exact .refl _
        · split
          · exact .refl _
          · exact ih t' ‹_›
      · exact .refl _

theorem iterate_monotone (u : Single) (text : Array Char) (looping : Bool) (follower : Option Nat)
    (greed : Greed) (least : Nat) (most : Option Nat) :
    (u.iterate text looping follower greed least most).Monotone := by
  intro s k k' h
  unfold iterate
  generalize u.count text s.pos (if greed = .lazy then some least else most) = n
  dsimp only
  split
  · exact .refl _
  split
  · exact .refl _
  cases greed with
  | greedy => exact giveBack_covers h follower least s _ _
  | «lazy» => exact takeMore_covers h u s _ _ _
  | possessive => exact h _

end Single

namespace Pattern

theorem tryOne_monotone {m : Matcher} (hm : m.Monotone) (text : Array Char) (c : Surroundings)
    (p : Pattern) : (tryOne text c p m).Monotone := by
  intro s k k' h
  unfold tryOne
  split
  · exact (hm s.settled h).orElse fun _ => .refl _
  · exact .refl _

/-- What is looked for is matched without regard to what follows. -/
theorem look_monotone (text : Array Char) (c : Surroundings) (behind : Option Width)
    (negated : Bool) (p : Pattern) : (run text c (.look behind negated p)).Monotone := by
  intro s k k' h
  cases behind with
  | none =>
      cases negated with
      | false =>
          unfold run
          split
          · exact h _
          · exact .refl _
      | true =>
          unfold run
          split
          · exact .refl _
          · exact h _
  | some w =>
      cases negated with
      | false =>
          unfold run
          split
          · exact .refl _
          · split
            · exact h _
            · exact .refl _
      | true =>
          unfold run
          split
          · exact h s
          · split
            · exact .refl _
            · exact h _

/-- **With less to follow a pattern succeeds wherever it did.** -/
theorem run_monotone (text : Array Char) (c : Surroundings) (p : Pattern) :
    (run text c p).Monotone := by
  -- the flags and what surrounds a part change on the way down
  induction p generalizing c with
  | empty => exact fun s _ _ h => h s
  | char t =>
      intro s k k' h
      unfold run
      split
      · exact .refl _
      · split
        · exact h _
        · exact .refl _
  | anchor a =>
      intro s k k' h
      unfold run
      split
      · exact h s
      · exact .refl _
  | backref g =>
      intro s k k' h
      unfold run
      split
      · exact .refl _
      · split
        · exact h _
        · exact .refl _
  | seq p q ihp ihq => exact (ihp (c.before q)).seq (ihq c)
  | alt p q ihp ihq =>
      intro s k k' h
      unfold run
      refine (tryOne_monotone (ihp c.closed) text c p s h).orElse fun t => ?_
      split
      · exact ihq c.closed _ h
      · exact tryOne_monotone (ihq c.closed) text c q _ h
  | group g p ih =>
      exact fun s _ _ h => ih c.closed (s.beginGroup g) fun s' => h (s'.endGroup g)
  | withFlags on off p ih => exact fun s _ _ h => ih { c with flags := c.flags.within on off } s h
  | atomic p => exact Matcher.atomic_monotone _
  | look behind negated p => exact look_monotone text c behind negated p
  | cond g yes no ihyes ihno =>
      intro s k k' h
      unfold run
      split
      · exact ihyes _ s h
      · exact ihno c s h
  | iterate greed least most p ih =>
      unfold run
      split
      · exact Single.iterate_monotone _ _ _ _ _ _ _
      · exact (ih _).iterate _ _ _ _ _

end Pattern

end TextShell
