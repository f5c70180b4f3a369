import TextShell.Pattern.Match
import TextShell.Proofs.Pattern.Marks
import TextShell.Proofs.Pattern.Numbering

/-!
# Groups end where they begin or later

Only a possessive repetition leaves a group that ends before it begins
(`Regex.misplaces_eq_false`).  A match without one goes forward, and where it goes back after a
failure, the marks of groups that ended are put back: inside of a repetition all marks are, and
outside of all repetitions the groups of a part come for the first time, since their numbers are
greater than those of all groups before (`Regex.ascends_of_compile`).  Inside of a possessive
repetition that stands in no other one neither holds: its groups come again, but the marks are put
back as outside of all repetitions.

A part of a pattern is run before what follows it, so a statement about its matcher is one about
both: the two end well if what follows ends well from wherever the part may lead
(`Matcher.Orderly`).

## Main Definitions

* `Attempt.Ends` — a success has one property, and the marks of a failure have another
* `Continuation.EndsFrom` — what follows a part ends well from wherever the part may lead
* `Matcher.Orderly` — then so does the part before it
-/

namespace TextShell

/-! ## Attempts -/

namespace Attempt

/-- A success has one property, and the marks of a failure have another. -/
def Ends (P : Spot → Prop) (Q : Marks → Prop) : Attempt → Prop
  | .matched s => P s
  | .failed t => Q t.marks

variable {P : Spot → Prop} {Q Q' : Marks → Prop} {a : Attempt}

theorem Ends.mono (h : a.Ends P Q) (hQ : ∀ m, Q m → Q' m) : a.Ends P Q' := by
  cases a with
  | matched s => exact h
  | failed t => exact hQ _ h

theorem Ends.orElse (h : a.Ends P Q) {next : Trail → Attempt}
    (hnext : ∀ t, Q t.marks → (next t).Ends P Q') : (a.orElse next).Ends P Q' := by
  cases a with
  | matched s => exact h
  | failed t => exact hnext t h

theorem Ends.backAt (h : a.Ends P Q) (pos : Nat) : (a.backAt pos).Ends P Q :=
  h.orElse fun _ ht => ht

end Attempt

/-- What follows a part ends well from wherever the part may lead: a failure keeps the marks of the
groups up to number `n`. -/
def Continuation.EndsFrom (k : Continuation) (P : Spot → Prop) (late : List Nat) (lo hi n : Nat)
    (s : Spot) : Prop :=
  ∀ s', s.Reaches late lo hi s' → (k s').Ends P (Marks.Kept late n s'.trail.marks)

namespace Continuation.EndsFrom

variable {k : Continuation} {P : Spot → Prop} {late : List Nat} {lo hi n : Nat} {s s' : Spot}

theorem of_reaches (hk : EndsFrom k P late lo hi n s) (hs : s.Reaches late lo hi s') :
    EndsFrom k P late lo hi n s' :=
  fun s'' hs' => hk s'' (hs.trans hs')

/-- From the place where the part begins, only marks of groups before the part are kept. -/
theorem ends (hk : EndsFrom k P late lo hi n s) (hs : s.Reaches late lo hi s') :
    (k s').Ends P (Marks.Kept late (min n lo) s.trail.marks) := by
  refine (hk s' hs).mono fun _ hm => ?_
  exact (hs.kept.mono (Nat.min_le_right n lo)).trans (hm.mono (Nat.min_le_left n lo))

end Continuation.EndsFrom

/-! ## Matchers -/

/-- A matcher for a part of a pattern whose groups have numbers above `lo`, up to `hi`.  If what
follows ends well from wherever the part may lead, then so does the whole.  Outside of all
repetitions, only groups before the part were marked so far, and what follows keeps the marks of the
part. -/
def Matcher.Orderly (looping : Bool) (lo hi : Nat) (m : Matcher) : Prop :=
  ∀ (late : List Nat) (n : Nat) (s : Spot) (k : Continuation) (P : Spot → Prop),
    (looping = false → s.trail.marks.count ≤ 2 * lo ∧ hi ≤ n) →
    k.EndsFrom P late lo hi n s →
    (m s k).Ends P (Marks.Kept late (min n lo) s.trail.marks)

namespace Matcher

open Attempt

variable {m m' : Matcher} {looping : Bool} {lo hi lo' hi' mid : Nat}

theorem Orderly.widen (h : m.Orderly looping lo hi) (hlo : lo' ≤ lo) (hhi : hi ≤ hi') :
    m.Orderly looping lo' hi' := by
  intro late n s k P hs hk
  refine (h late n s k P ?_ fun s' hs' => hk s' (hs'.widen hlo hhi)).mono fun _ hm =>
    hm.mono (by omega)
  intro hlooping
  obtain ⟨hcount, hn⟩ := hs hlooping
  exact ⟨by omega, by omega⟩

/-- Inside of a repetition nothing is asked of the marks. -/
theorem Orderly.of_looping (h : m.Orderly true lo hi) : m.Orderly looping lo hi :=
  fun late n s k P _ hk => h late n s k P nofun hk

/-- One part after another. -/
theorem Orderly.seq (h : m.Orderly looping lo mid) (h' : m'.Orderly looping mid hi)
    (hlo : lo ≤ mid) (hhi : mid ≤ hi) :
    Orderly looping lo hi fun s k => m s fun s' => m' s' k := by
  intro late n s k P hs hk
  -- for the first part, the second one is among what follows
  refine (h late (min n mid) s _ P ?_ fun s' hs' => ?_).mono fun _ hm => hm.mono (by omega)
  · intro hlooping
    obtain ⟨hcount, hn⟩ := hs hlooping
    exact ⟨hcount, by omega⟩
  · refine h' late n s' k P ?_ fun s'' hs'' => ?_
    · intro hlooping
      obtain ⟨hcount, hn⟩ := hs hlooping
      have := hs'.few
      exact ⟨by omega, hn⟩
    · exact hk s'' ((hs'.widen (Nat.le_refl lo) hhi).trans (hs''.widen hlo (Nat.le_refl hi)))

/-- One part after another inside of a repetition, where they may hold the same groups. -/
theorem Orderly.andThen (h : m.Orderly true lo hi) (h' : m'.Orderly true lo hi) :
    Orderly true lo hi fun s k => m s fun s' => m' s' k := by
  intro late n s k P _ hk
  refine (h late (min n lo) s _ P nofun fun s' hs' => ?_).mono fun _ hm => hm.mono (by omega)
  exact h' late n s' k P nofun (hk.of_reaches hs')

/-- A part that sets no mark and does not go back. -/
theorem orderly_of_forward
    (h : ∀ s k, (∃ t : Trail, m s k = .failed t ∧ t.marks = s.trail.marks) ∨
      ∃ s' : Spot, m s k = k s' ∧ s.pos ≤ s'.pos ∧ s'.trail.marks = s.trail.marks) :
    m.Orderly looping lo hi := by
  intro late n s k P _ hk
  rcases h s k with ⟨t, ht, hmarks⟩ | ⟨s', hs', hpos, hmarks⟩
  · rw [ht]
    show Marks.Kept late _ _ t.marks
    rw [hmarks]
    exact .refl late _ _
  · rw [hs']
    exact hk.ends (.of_marks_eq hpos hmarks)

/-- A group is open while its inside is matched. -/
theorem Orderly.group {g : Nat} (h : m.Orderly looping g hi) (hg : lo < g) (hhi : g ≤ hi) :
    Orderly looping lo hi fun s k => m (s.beginGroup g) fun s' => k (s'.endGroup g) := by
  intro late n s k P hs hk
  obtain ⟨i, rfl⟩ : ∃ i, g = i + 1 := ⟨g - 1, by omega⟩
  have hlo : lo ≤ i := Nat.le_of_lt_succ hg
  have hbegin : Marks.Kept late lo s.trail.marks (s.beginGroup (i + 1)).trail.marks :=
    Marks.kept_put_begin s.trail.marks late s.pos hlo
  refine (h (i :: late) n (s.beginGroup (i + 1)) _ P ?_ fun s' hs' => ?_).mono fun _ hm => ?_
  · intro hlooping
    obtain ⟨hfresh, hn⟩ := hs hlooping
    have hcount : (s.beginGroup (i + 1)).trail.marks.count = _ := Marks.count_put _ (2 * i) _
    exact ⟨by omega, hn⟩
  · have hend : Marks.Kept (i :: late) n s'.trail.marks (s'.endGroup (i + 1)).trail.marks :=
      Marks.kept_put_end s'.trail.marks late n i s'.pos
    exact (hk _ (.group hlo hhi hs')).mono fun _ hm => hend.trans (hm.open i)
  · exact (hbegin.mono (Nat.min_le_right n lo)).trans ((hm.mono (by omega)).close (by omega))

/-- The first success of a matcher that nothing follows. -/
theorem Orderly.first (h : m.Orderly looping lo hi) (hhi : lo ≤ hi) {s : Spot}
    (hs : looping = false → s.trail.marks.count ≤ 2 * lo) (late : List Nat) :
    (m.first s).Ends (s.Reaches late lo hi) (Marks.Kept late lo s.trail.marks) := by
  refine (h late hi s.settled Spot.done _ (fun hlooping => ⟨hs hlooping, Nat.le_refl hi⟩)
    fun s' hs' => ?_).mono fun _ hm => hm.mono (by omega)
  exact ((s.reaches_settled late lo hi).trans hs').trans (s'.reaches_settled late lo hi)

theorem Orderly.atomic (h : m.Orderly looping lo hi) (hhi : lo ≤ hi) :
    m.atomic.Orderly looping lo hi := by
  intro late n s k P hs hk
  have hfirst := h.first hhi (fun hlooping => (hs hlooping).1) late
  unfold Matcher.atomic
  cases hm : m.first s with
  | matched s' =>
      rw [hm] at hfirst
      exact hk.ends hfirst
  | failed t =>
      rw [hm] at hfirst
      exact Marks.Kept.mono hfirst (Nat.min_le_right n lo)

/-! ### Repetitions -/

section Repetitions

variable {late : List Nat} {n : Nat} {s : Spot} {k : Continuation} {P : Spot → Prop}

theorem Orderly.exactly (h : m.Orderly true lo hi) (times : Nat) :
    (m.exactly times).Orderly true lo hi := by
  induction times with
  | zero => exact fun late n s k P _ hk => hk.ends (.refl late lo hi s)
  | succ times ih =>
      intro late n s k P _ hk
      refine Ends.backAt ?_ s.pos
      exact h.andThen ih late n s.settled k P nofun (hk.of_reaches (s.reaches_settled late lo hi))

theorem leave_ends (hk : k.EndsFrom P late lo hi n s) :
    (leave s k).Ends P (Marks.Kept late (min n lo) s.trail.marks) :=
  (hk.ends (s.reaches_settled late lo hi)).backAt s.pos

theorem Orderly.greedily (h : m.Orderly true lo hi) (size budget : Nat) (most : Option Nat) :
    Orderly true lo hi fun s k => m.greedily size budget most s k := by
  intro late n s k P hs hk
  clear hs
  show (m.greedily size budget most s k).Ends P _
  -- a repetition that moved back is ruled out, since its inside leads forward only
  induction budget, most, s using greedily.induct size with
  | case1 budget s =>
      rw [Matcher.greedily, if_pos rfl]
      exact leave_ends hk
  | case2 budget most s hmost ihon ihback =>
      rw [Matcher.greedily, if_neg hmost]
      refine (h late (min n lo) s.settled _ P nofun fun s' hs' => ?_).orElse fun _ _ =>
        leave_ends hk
      have hk' := hk.of_reaches ((s.reaches_settled late lo hi).trans hs')
      split
      · exact ihon s' ‹_› hk'
      · split
        · rename_i hback
          exact absurd hback.1 (Nat.not_lt.mpr hs'.forward)
        · exact leave_ends hk'

theorem leaveLazily_ends (hs : looping = false → s.trail.marks.count ≤ 2 * n)
    (hk : k.EndsFrom P late lo hi n s) :
    (leaveLazily looping s k).Ends P (Marks.Alike late s.trail.marks) :=
  (hk _ (s.reaches_settled late lo hi)).orElse fun _ ht => ht.putBack hs

/-- Outside of all repetitions, what follows a lazy one must keep all marks that count. -/
theorem Orderly.lazily (h : m.Orderly true lo hi) (size budget : Nat) (most : Option Nat)
    (hs : looping = false → s.trail.marks.count ≤ 2 * n ∧ hi ≤ n)
    (hk : k.EndsFrom P late lo hi n s) :
    (m.lazily looping size budget most s k).Ends P
      (Marks.Kept late (min n lo) s.trail.marks) := by
  induction budget, most, s using lazily.induct size with
  | case1 budget most s ihon ihback =>
      rw [Matcher.lazily]
      refine (leaveLazily_ends (fun hlooping => (hs hlooping).1) hk).orElse fun t ht => ?_
      split
      · exact ht.kept _
      have hagain : s.Reaches late lo hi { s with trail := t } := .of_alike (Nat.le_refl _) ht
      refine Ends.backAt (Ends.mono (h late (min n lo) { s with trail := t } _ P nofun
        fun s' hs' => ?_) fun _ hm => (ht.kept _).trans (hm.mono (by omega))) s.pos
      have hreach : s.Reaches late lo hi s' := hagain.trans hs'
      have hk' := hk.of_reaches hreach
      have hs'' : looping = false → s'.trail.marks.count ≤ 2 * n ∧ hi ≤ n := by
        intro hlooping
        obtain ⟨hcount, hn⟩ := hs hlooping
        have := hreach.few
        exact ⟨by omega, hn⟩
      split
      · exact ihon s' ‹_› hs'' hk'
      · split
        · rename_i hback
          exact absurd hback.1 (Nat.not_lt.mpr hs'.forward)
        · exact (leaveLazily_ends (fun hlooping => (hs'' hlooping).1) hk').mono fun _ hm =>
            hm.kept _

/-- A repetition that is not possessive. -/
theorem Orderly.iterate (h : m.Orderly true lo hi) (hhi : lo ≤ hi) (looping : Bool) (size : Nat)
    {greed : Greed} (hgreed : greed ≠ .possessive) (least : Nat) (most : Option Nat) :
    (m.iterate looping size greed least most).Orderly looping lo hi := by
  cases greed with
  | greedy => exact ((h.exactly least).andThen (h.greedily size size _)).of_looping
  | «lazy» =>
      intro late n s k P hs hk
      refine (h.exactly least late (min n lo) s _ P nofun fun s' hs' => ?_).mono fun _ hm =>
        hm.mono (by omega)
      refine h.lazily size size _ ?_ (hk.of_reaches hs')
      intro hlooping
      obtain ⟨hcount, hn⟩ := hs hlooping
      have := hs'.few
      exact ⟨by omega, hn⟩
  | possessive => exact absurd rfl hgreed

end Repetitions

end Matcher

/-! ### Repetitions of single characters -/

namespace Single

open Attempt

variable {text : Array Char} {looping : Bool} {late : List Nat} {lo hi n : Nat} {s : Spot}
variable {k : Continuation} {P : Spot → Prop}

theorem tryAfter_ends {Q : Marks → Prop} (follower : Option Nat) (count : Nat)
    (hs : looping = false → s.trail.marks.count ≤ 2 * n) (hk : k.EndsFrom P late lo hi n s)
    {t : Trail} (ht : Marks.Alike late s.trail.marks t.marks) {next : Trail → Attempt}
    (hnext : ∀ t, Marks.Alike late s.trail.marks t.marks → (next t).Ends P Q) :
    (tryAfter text looping follower s k count t next).Ends P Q := by
  unfold tryAfter
  dsimp only
  split
  · have hreach : s.Reaches late lo hi ⟨s.pos + count, t.from (s.pos + count)⟩ :=
      .of_alike (Nat.le_add_right _ _) ht
    exact (hk _ hreach).orElse fun t' ht' => hnext _ (((ht.kept n).trans ht').putBack hs)
  · exact hnext t ht

theorem giveBack_ends (follower : Option Nat) (least extra : Nat)
    (hs : looping = false → s.trail.marks.count ≤ 2 * n) (hk : k.EndsFrom P late lo hi n s)
    {t : Trail} (ht : Marks.Alike late s.trail.marks t.marks) :
    (giveBack text looping follower least s k extra t).Ends P
      (Marks.Alike late s.trail.marks) := by
  induction extra generalizing t with
  | zero => exact tryAfter_ends follower _ hs hk ht fun _ ht' => ht'
  | succ extra ih => exact tryAfter_ends follower _ hs hk ht fun _ ht' => ih ht'

theorem takeMore_ends (u : Single) {pos : Nat} (extra : Option Nat) (hpos : s.pos ≤ pos)
    (hs : looping = false → s.trail.marks.count ≤ 2 * n) (hk : k.EndsFrom P late lo hi n s)
    {t : Trail} (ht : Marks.Alike late s.trail.marks t.marks) :
    (u.takeMore text looping s k pos extra t).Ends P (Marks.Alike late s.trail.marks) := by
  induction pos, extra, t using takeMore.induct u text looping s with
  | case1 pos extra t ih =>
      rw [takeMore]
      refine (hk ⟨pos, t.from pos⟩ (.of_alike hpos ht)).orElse fun t' ht' => ?_
      have hback : Marks.Alike late s.trail.marks (s.retry looping t').trail.marks :=
        ((ht.kept n).trans ht').putBack hs
      -- whether the search goes on from the next character or not, the marks stay
      have honward : Marks.Alike late s.trail.marks
          (if u.strides then ((s.retry looping t').trail.from pos).from (pos + 1)
            else (s.retry looping t').trail.from pos).marks := by
        split <;> exact hback
      dsimp only
      split
      · split
        · exact hback
        · split
          · exact honward
          · exact ih t' ‹_› (Nat.le_succ_of_le hpos) honward
      · exact hback

theorem iterate_orderly (u : Single) (text : Array Char) (looping : Bool) (follower : Option Nat)
    (greed : Greed) (least : Nat) (most : Option Nat) (hhi : lo ≤ hi) :
    (u.iterate text looping follower greed least most).Orderly looping lo hi := by
  intro late n s k P hs hk
  have hcount : looping = false → s.trail.marks.count ≤ 2 * n := by
    intro hlooping
    obtain ⟨hcount, hn⟩ := hs hlooping
    omega
  unfold iterate
  generalize u.count text s.pos (if greed = .lazy then some least else most) = count
  have hsame : Marks.Alike late s.trail.marks (u.counted s count).marks := .refl late _
  dsimp only
  split
  · exact .refl late _ _
  split
  · exact hsame.kept _
  cases greed with
  | greedy => exact (giveBack_ends follower least _ hcount hk hsame).mono fun _ hm => hm.kept _
  | «lazy» =>
      exact (takeMore_ends u _ (Nat.le_add_right _ _) hcount hk hsame).mono fun _ hm => hm.kept _
  | possessive => exact hk.ends (.of_alike (Nat.le_add_right _ _) hsame)

end Single

/-! ## Patterns -/

namespace Pattern

open Attempt Matcher

variable {text : Array Char} {c : Surroundings} {lo hi : Nat}

/-- An alternative that fails leaves the marks as they were. -/
theorem tryOne_ends {m : Matcher} (h : m.Orderly c.looping lo hi) (hhi : lo ≤ hi) (p : Pattern)
    {late : List Nat} {n : Nat} {s : Spot} {k : Continuation} {P : Spot → Prop}
    (hs : c.looping = false → s.trail.marks.count ≤ 2 * lo ∧ hi ≤ n)
    (hk : k.EndsFrom P late lo hi n s) :
    (tryOne text c p m s k).Ends P (Marks.Alike late s.trail.marks) := by
  unfold tryOne
  split
  · refine Ends.orElse (h late n s.settled k P hs (hk.of_reaches (s.reaches_settled late lo hi)))
      fun t ht => ht.putBack fun hlooping => ?_
    obtain ⟨hcount, hn⟩ := hs hlooping
    show s.trail.marks.count ≤ _
    omega
  · exact .refl late _

theorem orderly_alt {p q : Pattern} (h : Orderly c.looping lo hi (run text c.closed p))
    (h' : Orderly c.looping lo hi (run text c.closed q)) (hhi : lo ≤ hi) :
    Orderly c.looping lo hi (run text c (.alt p q)) := by
  intro late n s k P hs hk
  unfold run
  refine (tryOne_ends h hhi p hs hk).orElse fun t ht => ?_
  have hs' : c.looping = false → t.marks.count ≤ 2 * lo ∧ hi ≤ n := ht.count ▸ hs
  have hk' : k.EndsFrom P late lo hi n { s with trail := t } :=
    hk.of_reaches (.of_alike (Nat.le_refl _) ht)
  split
  · exact (h' late n { s with trail := t } k P hs' hk').mono fun _ hm => (ht.kept _).trans hm
  · have hlast : (tryOne text c q (run text c.closed q) { s with trail := t } k).Ends P
        (Marks.Alike late t.marks) := tryOne_ends h' hhi q hs' hk'
    exact hlast.mono fun _ hm => (ht.kept _).trans (hm.kept _)

/-- A look-around sets the marks of its inside, and ends where it began. -/
theorem orderly_look {p : Pattern} (h : Orderly c.looping lo hi (run text c.closed p))
    (hhi : lo ≤ hi) (behind : Option Width) (negated : Bool) :
    Orderly c.looping lo hi (run text c (.look behind negated p)) := by
  intro late n s k P hs hk
  -- the place from which the inside is matched plays no part
  have hfirst (pos : Nat) : ((run text c.closed p).first (s.moveTo pos)).Ends
      (Spot.Reaches late lo hi (s.moveTo pos)) (Marks.Kept late lo s.trail.marks) :=
    h.first hhi (s := s.moveTo pos) (fun hlooping => (hs hlooping).1) late
  have hpositive (pos : Nat) : Ends P (Marks.Kept late (min n lo) s.trail.marks)
      (match (run text c.closed p).first (s.moveTo pos) with
        | .matched s' => k (s'.moveTo s.pos)
        | .failed t => .failed t) := by
    have hpos := hfirst pos
    cases hresult : (run text c.closed p).first (s.moveTo pos) with
    | matched s' =>
        rw [hresult] at hpos
        exact hk.ends ⟨Nat.le_refl _, hpos.kept, hpos.few, hpos.ordered⟩
    | failed t =>
        rw [hresult] at hpos
        exact Marks.Kept.mono hpos (Nat.min_le_right n lo)
  have hnegative (pos : Nat) : Ends P (Marks.Kept late (min n lo) s.trail.marks)
      (match (run text c.closed p).first (s.moveTo pos) with
        | .matched s' => .failed s'.trail
        | .failed t => k (s.retry c.looping t)) := by
    have hpos := hfirst pos
    cases hresult : (run text c.closed p).first (s.moveTo pos) with
    | matched s' =>
        rw [hresult] at hpos
        exact Marks.Kept.mono hpos.kept (Nat.min_le_right n lo)
    | failed t =>
        rw [hresult] at hpos
        exact hk.ends (.retry hpos fun hlooping => (hs hlooping).1)
  cases behind with
  | none =>
      cases negated with
      | false => exact hpositive s.pos
      | true => exact hnegative s.pos
  | some w =>
      cases negated with
      | false =>
          unfold run
          split
          · exact .refl late _ _
          · exact hpositive _
      | true =>
          unfold run
          split
          · exact hk.ends (.refl late lo hi s)
          · exact hnegative _

theorem orderly_cond {g : Nat} {yes no : Pattern}
    (h : Orderly c.looping lo hi (run text (if no = .empty then c else c.closed) yes))
    (h' : Orderly c.looping lo hi (run text c no)) :
    Orderly c.looping lo hi (run text c (.cond g yes no)) := by
  intro late n s k P hs hk
  unfold run
  split
  · exact h late n s k P hs hk
  · exact h' late n s k P hs hk

/-- **A pattern without possessive repetitions keeps its groups in order,** if they are numbered
from left to right. -/
theorem run_orderly (text : Array Char) (c : Surroundings) {p : Pattern}
    (hp : p.hasPossessive = false) (h : Ascends lo p.groups hi) :
    Orderly c.looping lo hi (run text c p) := by
  induction p generalizing c lo hi with
  | empty => exact orderly_of_forward fun s k => .inr ⟨s, rfl, Nat.le_refl _, rfl⟩
  | char t =>
      refine orderly_of_forward fun s k => ?_
      unfold run
      split
      · exact .inl ⟨s.trail, rfl, rfl⟩
      · split
        · exact .inr ⟨s.moveTo (s.pos + 1), rfl, Nat.le_succ _, rfl⟩
        · exact .inl ⟨s.trail, rfl, rfl⟩
  | anchor a =>
      refine orderly_of_forward fun s k => ?_
      unfold run
      split
      · exact .inr ⟨s, rfl, Nat.le_refl _, rfl⟩
      · exact .inl ⟨s.trail, rfl, rfl⟩
  | backref g =>
      refine orderly_of_forward fun s k => ?_
      unfold run
      split
      · exact .inl ⟨s.trail, rfl, rfl⟩
      · rename_i i j _
        split
        · exact .inr ⟨s.moveTo (s.pos + (j - i)), rfl, Nat.le_add_right _ _, rfl⟩
        · exact .inl ⟨s.trail, rfl, rfl⟩
  | seq p q ihp ihq =>
      obtain ⟨hp, hq⟩ := Bool.or_eq_false_iff.mp hp
      obtain ⟨mid, hleft, hright⟩ := Ascends.append_iff.mp h
      have hfirst := ihp (c.before q) hp hleft
      rw [Surroundings.looping_before] at hfirst
      exact hfirst.seq (ihq c hq hright) hleft.le hright.le
  | alt p q ihp ihq =>
      obtain ⟨hp, hq⟩ := Bool.or_eq_false_iff.mp hp
      obtain ⟨mid, hleft, hright⟩ := Ascends.append_iff.mp h
      -- either alternative is a part with the groups of both
      exact orderly_alt ((ihp c.closed hp hleft).widen (Nat.le_refl lo) hright.le)
        ((ihq c.closed hq hright).widen hleft.le (Nat.le_refl hi)) h.le
  | group g p ih => exact (ih c.closed hp h.2).group h.1 h.2.le
  | withFlags on off p ih => exact ih { c with flags := c.flags.within on off } hp h
  | atomic p ih => exact (ih c.closed hp h).atomic h.le
  | look behind negated p ih =>
      have hinside : Orderly c.looping lo hi (run text c.closed p) := ih c.closed hp h
      exact orderly_look hinside h.le behind negated
  | cond g yes no ihyes ihno =>
      obtain ⟨hyes, hno⟩ := Bool.or_eq_false_iff.mp hp
      obtain ⟨mid, hleft, hright⟩ := Ascends.append_iff.mp h
      have hc : (if no = .empty then c else c.closed).looping = c.looping := by
        split <;> rfl
      have hbranch := ihyes (if no = .empty then c else c.closed) hyes hleft
      rw [hc] at hbranch
      exact orderly_cond (hbranch.widen (Nat.le_refl lo) hright.le)
        ((ihno c hno hright).widen hleft.le (Nat.le_refl hi))
  | iterate greed least most p ih =>
      obtain ⟨hgreed, hp⟩ := Bool.or_eq_false_iff.mp hp
      unfold run
      split
      · exact Single.iterate_orderly _ _ _ _ _ _ _ h.le
      · have hlooping : (c.looping || greed != .possessive) = true := by
          rw [bne, hgreed, Bool.not_false, Bool.or_true]
        rw [hlooping]
        have hinside : Orderly true lo hi (run text { c.closed with looping := true } p) :=
          ih { c.closed with looping := true } hp h
        exact hinside.iterate h.le c.looping text.size (beq_eq_false_iff_ne.mp hgreed) least most

end Pattern

namespace Regex

variable {r : Regex}

theorem exists_matchAt?_of_search? {line : Text} {s : Spot} (h : r.search? line = some s) :
    ∃ i, r.matchAt? line.toArray i = some s := by
  unfold search? at h
  dsimp only at h
  split at h
  · exact (List.exists_of_findSome?_eq_some h).imp fun _ hi => hi.2
  · cases h

/-- The marks of a match without possessive repetitions. -/
theorem ordered_of_matchAt? {flags : Flags} {p : Text} (h : compile flags p = .ok r)
    (hr : r.pattern.hasPossessive = false) {text : Array Char} {i : Nat} {s : Spot}
    (hs : r.matchAt? text i = some s) : s.trail.marks.Ordered [] := by
  obtain ⟨n, hgroups⟩ := ascends_of_compile h
  unfold matchAt? at hs
  split at hs
  · -- no mark counts where the match begins, and nothing follows the pattern
    have hrun := Pattern.run_orderly text { flags := r.flags } hr hgroups [] n
      ⟨i, { reach := i }⟩ Spot.done (fun t => t.trail.marks.Ordered [])
      (fun _ => ⟨Nat.le_refl 0, Nat.le_refl n⟩)
      fun s' hs' => hs'.ordered fun j _ a b ha _ => nomatch ha
    cases hresult : r.pattern.run text { flags := r.flags } ⟨i, { reach := i }⟩ Spot.done with
    | matched t =>
        rw [hresult] at hrun hs
        obtain rfl : t = s := Option.some.inj hs
        exact hrun
    | failed t =>
        rw [hresult] at hs
        cases hs
  · cases hs

/-- **A match without possessive repetitions leaves no group that ends before it begins.** -/
theorem misplaces_eq_false {flags : Flags} {p : Text} (h : compile flags p = .ok r)
    (hr : r.pattern.hasPossessive = false) (line : Text) : r.misplaces line = false := by
  rw [misplaces, Option.any_eq_false]
  intro s hs
  obtain ⟨i, hi⟩ := exists_matchAt?_of_search? hs
  exact (ordered_of_matchAt? h hr hi).isCrossed

end Regex

end TextShell
