import TextShell.Proofs.Grep.Chained
import TextShell.Proofs.Grep.WholeWords
import TextShell.Proofs.Pattern.Finding

/-!
# Looking for whole words finds less

A pattern between two boundaries matches from a place only if the pattern alone matches from there:
the boundary after it is more to follow, and asking less of what follows loses no success.  The
match may be another one.

A line in which a whole word is found so holds a match.  A search for the pattern alone finds it if
it tries its place.  It need not if the pattern begins with a set of characters, because the places
are then chosen by that set, and it is read with the flags of the whole pattern where the part that
holds it may be read with others (`Regex.PassesOver`).  With a boundary before it no pattern begins
with a set.

## Main Definitions

* `Regex.PassesOver` — a search does not try a place of a line from which the pattern matches
-/

namespace TextShell

namespace Regex

/-- The search passes over a place from which the pattern matches: the pattern begins with a set,
and the next character is in it as the part that holds it is read, but not as the whole pattern
is. -/
def PassesOver (r : Regex) (line : Text) : Prop :=
  ∃ t, r.pattern.lead r.flags = .set t ∧
    ∃ i x, r.MatchesFrom line i ∧ (line.drop i).head? = some x ∧
      t.accepts (r.pattern.leadingFlags r.flags) x.toNat = true ∧
      t.accepts { r.flags with ignoreCase := false } x.toNat = false

variable {r : Regex} {line : Text} {i : Nat}

/-- **A boundary that must follow loses matches only.** -/
theorem MatchesFrom.of_betweenBoundaries (h : r.betweenBoundaries.MatchesFrom line i) :
    r.MatchesFrom line i := by
  unfold MatchesFrom betweenBoundaries at h
  rw [Pattern.run_betweenBoundaries, Attempt.succeeds_ite] at h
  have hcovers := Pattern.run_monotone line.toArray { flags := r.flags } r.pattern
    ⟨i, { reach := i }⟩ (Spot.done_covers fun s =>
      if Anchor.boundary.holds r.flags line.toArray s.pos then s.done else .failed s.trail)
  exact hcovers.succeeds h.2

theorem leading?_of_lead {flags : Flags} {p : Pattern} {t : CharTest} (h : p.lead flags = .set t) :
    p.leading? flags = some t := by
  unfold Pattern.lead at h
  split at h
  · cases h
  · split at h
    · cases h
      assumption
    · cases h

/-- No place is passed over if the part that begins the pattern is read in letter case and with the
alphabet of the whole. -/
theorem not_passesOver (hunicode : (r.pattern.leadingFlags r.flags).unicode = r.flags.unicode)
    (hcase : (r.pattern.leadingFlags r.flags).ignoreCase = false) : ¬r.PassesOver line := by
  rintro ⟨t, hlead, i, x, -, -, hpart, hwhole⟩
  obtain ⟨negated, items, rfl⟩ := Pattern.exists_items_of_leading? (leading?_of_lead hlead)
  rw [Pattern.accepts_oneOf hcase, hunicode] at hpart
  rw [Pattern.accepts_oneOf rfl, hpart] at hwhole
  cases hwhole

/-- A match is found unless its place is passed over. -/
theorem found_or_passesOver (hleast : r.least ≤ line.length) (hi : i ≤ line.length)
    (hleft : i + r.least ≤ line.length + 1) (h : r.MatchesFrom line i) :
    r.found line = true ∨ r.PassesOver line := by
  have hfound : r.mayBegin line.toArray i = true → r.found line = true := fun hbegin =>
    found_iff.mpr ⟨hleast, i, hi, hbegin, h⟩
  unfold mayBegin at hfound
  cases hlead : r.pattern.lead r.flags with
  | character =>
      rw [hlead] at hfound
      exact .inl (hfound rfl)
  | free =>
      rw [hlead] at hfound
      exact .inl (hfound (decide_eq_true hleft))
  | set t =>
      rw [hlead] at hfound
      -- the match itself begins with a character of the set
      obtain ⟨x, hx, hpart⟩ := Pattern.exists_accepted_of_leading? (c := { flags := r.flags })
        (leading?_of_lead hlead) h
      cases hwhole : t.accepts { r.flags with ignoreCase := false } x.toNat with
      | true =>
          refine .inl (hfound ?_)
          dsimp only
          rw [hx]
          exact hwhole
      | false =>
          rw [List.getElem?_toArray, ← List.head?_drop] at hx
          exact .inr ⟨t, hlead, i, x, h, hx, hpart, hwhole⟩

/-- What is found between boundaries matches without them. -/
theorem found_betweenBoundaries (h : r.betweenBoundaries.found line = true) :
    (∃ i ≤ line.length, r.MatchesFrom line i) ∧ (r.found line = true ∨ r.PassesOver line) := by
  obtain ⟨hleast, i, hi, hbegin, hmatch⟩ := found_iff.mp h
  rw [mayBegin_betweenBoundaries, List.size_toArray] at hbegin
  have halone := hmatch.of_betweenBoundaries
  exact ⟨⟨i, hi, halone⟩, found_or_passesOver hleast hi (of_decide_eq_true hbegin) halone⟩

theorem select_eq_ok {after : Nat} {text out : Text} (h : r.select after text = .ok out) :
    out = filterLines r.found after text := by
  unfold select at h
  split at h
  · cases h
  · exact (Except.ok.inj h).symm

end Regex

/-- Fewer lines are selected where less is found in each. -/
theorem endedLines_filterLines_sublist {p q : Text → Bool} {text : Text}
    (h : ∀ line ∈ text.pieces '\n', p line = true → q line = true) :
    (endedLines (filterLines p 0 text)).Sublist (endedLines (filterLines q 0 text)) := by
  have hboth : ((text.pieces '\n').filter q).filter p = (text.pieces '\n').filter p := by
    rw [List.filter_filter]
    refine List.filter_congr fun line hline => ?_
    cases hp : p line with
    | false => rfl
    | true => simp [h line hline hp]
  rw [endedLines_filterLines, endedLines_filterLines, selectLines_zero, selectLines_zero, ← hboth]
  exact List.filter_sublist

namespace GrepOptions

end GrepOptions

end TextShell
