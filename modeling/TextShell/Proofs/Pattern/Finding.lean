import TextShell.Proofs.Pattern.Boundaries
import TextShell.Proofs.Pattern.Continuing

/-!
# Where a match may begin

A pattern is found in a line if it matches from some place of it and the search tries that place
(`Regex.found_iff`).  A search that is led by a set tries only the places of the characters in the
set.  A match does begin with such a character, as the part of the pattern reads the set that holds
it (`Pattern.exists_accepted_of_leading?`); the search reads it with the flags of the whole pattern.

## Main Definitions

* `Regex.MatchesFrom` — a pattern matches from a place of a line
* `Pattern.leadingFlags` — the flags of the part that begins the pattern
-/

namespace TextShell

namespace Regex

/-- The pattern matches from a place of a line. -/
def MatchesFrom (r : Regex) (line : Text) (i : Nat) : Prop :=
  (r.pattern.run line.toArray { flags := r.flags } ⟨i, { reach := i }⟩ Spot.done).Succeeds

variable {r : Regex} {line : Text} {i : Nat}

theorem matchAt?_isSome_iff :
    (r.matchAt? line.toArray i).isSome = true ↔
      r.mayBegin line.toArray i = true ∧ r.MatchesFrom line i := by
  rw [matchAt?, MatchesFrom, Attempt.succeeds_iff]
  split <;> simp_all

/-- A pattern is found where it matches and the search looks. -/
theorem found_iff :
    r.found line = true ↔
      r.least ≤ line.length ∧
        ∃ i ≤ line.length, r.mayBegin line.toArray i = true ∧ r.MatchesFrom line i := by
  rw [found, search?, List.size_toArray]
  split
  · rename_i hleast
    rw [List.findSome?_isSome_iff]
    simp only [matchAt?_isSome_iff, List.mem_range, Nat.lt_succ_iff]
    exact ⟨fun h => ⟨hleast, h⟩, fun h => h.2⟩
  · rename_i hleast
    exact ⟨nofun, fun h => absurd h.1 hleast⟩

/-- Every place from which enough characters are left is tried for a pattern between boundaries. -/
theorem mayBegin_betweenBoundaries (text : Array Char) :
    r.betweenBoundaries.mayBegin text i = decide (i + r.least ≤ text.size + 1) := by
  have hlead : r.betweenBoundaries.pattern.lead r.betweenBoundaries.flags = .free :=
    Pattern.lead_betweenBoundaries r.flags r.pattern
  rw [mayBegin, hlead]
  rfl

end Regex

namespace Pattern

variable {text : Array Char} {c : Surroundings} {s : Spot} {k : Continuation}

/-! ## The character that a match begins with -/

theorem exists_code_of_opening {flags : Flags} {t : CharTest} {x : Nat}
    (h : t.opening flags = .character x) : t = .code x ∧ ∀ y, t.accepts flags y = (x == y) := by
  cases t with
  | code d =>
      rw [CharTest.opening] at h
      split at h
      · cases h
      · rename_i hcase
        cases h
        refine ⟨rfl, fun y => ?_⟩
        rw [CharTest.accepts, CharTest.isCode, if_neg hcase]
  | notCode d => cases h
  | any => cases h
  | oneOf negated items =>
      rw [CharTest.opening] at h
      split at h <;> cases h

theorem succeeds_char {t : CharTest} (h : (run text c (.char t) s k).Succeeds) :
    ∃ x, text[s.pos]? = some x ∧ t.accepts c.flags x.toNat = true := by
  unfold run at h
  split at h
  · exact absurd h Attempt.not_succeeds_failed
  · rename_i x hx
    exact ⟨x, hx, (Attempt.succeeds_ite.mp h).1⟩

theorem opening_of_firstCode? {flags : Flags} {t : CharTest} {code : Nat}
    (h : (Pattern.char t).firstCode? flags = some code) : t.opening flags = .character code := by
  rw [firstCode?] at h
  split at h
  · cases h
    assumption
  · cases h

theorem exists_first_of_opening {t : CharTest} {code : Nat}
    (hopening : t.opening c.flags = .character code) (h : (run text c (.char t) s k).Succeeds) :
    ∃ x, text[s.pos]? = some x ∧ x.toNat = code := by
  obtain ⟨x, hx, haccepts⟩ := succeeds_char h
  rw [(exists_code_of_opening hopening).2] at haccepts
  exact ⟨x, hx, (beq_iff_eq.mp haccepts).symm⟩

theorem exists_first_of_firstCode? {p : Pattern} {code : Nat}
    (hp : p.firstCode? c.flags = some code) (h : (run text c p s k).Succeeds) :
    ∃ x, text[s.pos]? = some x ∧ x.toNat = code := by
  unfold firstCode? at hp
  split at hp
  · exact exists_first_of_opening (opening_of_firstCode? hp) h
  · rename_i t q
    have hfirst : (run text (c.before q) (.char t) s fun s' => run text c q s' k).Succeeds := h
    refine exists_first_of_opening ?_ hfirst
    rw [Surroundings.flags_before]
    exact opening_of_firstCode? hp
  · cases hp

theorem succeeds_tryOne {p : Pattern} {m : Matcher} (h : (tryOne text c p m s k).Succeeds) :
    (m s.settled k).Succeeds := by
  unfold tryOne at h
  rcases Attempt.orElse_succeeds (Attempt.succeeds_ite.mp h).2 with h | ⟨t, h⟩
  · exact h
  · exact absurd h Attempt.not_succeeds_failed

/-- A choice succeeds only through one of its alternatives. -/
theorem succeeds_alt {p q : Pattern} (h : (run text c (.alt p q) s k).Succeeds) :
    ∃ s' : Spot, s'.pos = s.pos ∧
      ((run text c.closed p s' k).Succeeds ∨ (run text c.closed q s' k).Succeeds) := by
  unfold run at h
  rcases Attempt.orElse_succeeds h with h | ⟨t, h⟩
  · exact ⟨s.settled, rfl, .inl (succeeds_tryOne h)⟩
  · let s' : Spot := { s with trail := t }
    split at h
    · exact ⟨s', rfl, .inr h⟩
    · exact ⟨s'.settled, rfl, .inr (succeeds_tryOne h)⟩

theorem exists_first_of_firstCodes? {p : Pattern} {codes : List Nat}
    (hp : p.firstCodes? c.flags = some codes) (h : (run text c p s k).Succeeds) :
    ∃ x, text[s.pos]? = some x ∧ x.toNat ∈ codes := by
  induction p generalizing c s codes with
  | alt p q ihp ihq =>
      simp only [firstCodes?, Option.pure_def, Option.bind_eq_bind, Option.bind_eq_some_iff] at hp
      obtain ⟨code, hcode, codes', hcodes, hp⟩ := hp
      cases hp
      obtain ⟨s', hpos, hsucceeds⟩ := succeeds_alt h
      rw [← hpos]
      rcases hsucceeds with h | h
      · obtain ⟨x, hx, heq⟩ := exists_first_of_firstCode? (c := c.closed) hcode h
        exact ⟨x, hx, heq ▸ List.mem_cons_self⟩
      · obtain ⟨x, hx, hmem⟩ := ihq (c := c.closed) hcodes h
        exact ⟨x, hx, List.mem_cons_of_mem _ hmem⟩
  | _ =>
      obtain ⟨code, hcode, hcodes⟩ := Option.map_eq_some_iff.mp hp
      obtain ⟨x, hx, heq⟩ := exists_first_of_firstCode? hcode h
      exact ⟨x, hx, by rw [← hcodes, heq]; exact List.mem_cons_self⟩

/-- The flags of the part that begins the pattern.  Alternatives that each begin with a character do
so in one letter case. -/
def leadingFlags : Flags → Pattern → Flags
  | flags, .alt _ _ => { flags with ignoreCase := false }
  | flags, .seq p _ => leadingFlags flags p
  | flags, .group _ p => leadingFlags flags p
  | flags, .withFlags on off p => leadingFlags (flags.within on off) p
  | flags, _ => flags

/-- Where letter case counts, a set is read with the alphabet alone. -/
theorem accepts_oneOf {flags : Flags} (hflags : flags.ignoreCase = false) (negated : Bool)
    (items : List ClassItem) (x : Nat) :
    (CharTest.oneOf negated items).accepts flags x =
      (items.any (ClassItem.holds flags.unicode x) != negated) := by
  rw [CharTest.accepts, hflags]
  rfl

theorem accepts_codes {flags : Flags} (hflags : flags.ignoreCase = false) {codes : List Nat}
    {x : Nat} (hx : x ∈ codes) : (CharTest.oneOf false (codes.map .code)).accepts flags x = true := by
  have hholds : (codes.map ClassItem.code).any (ClassItem.holds flags.unicode x) = true := by
    rw [List.any_eq_true]
    exact ⟨.code x, List.mem_map_of_mem hx, beq_self_eq_true x⟩
  rw [accepts_oneOf hflags, hholds]
  rfl

theorem exists_items_of_leading? {flags : Flags} {p : Pattern} {t : CharTest}
    (hp : p.leading? flags = some t) : ∃ negated items, t = .oneOf negated items := by
  induction p generalizing flags with
  | char u =>
      cases u with
      | oneOf negated items =>
          rw [leading?] at hp
          split at hp
          · cases hp
          · cases hp
            exact ⟨negated, items, rfl⟩
      | code d => cases hp
      | notCode d => cases hp
      | any => cases hp
  | alt p q =>
      obtain ⟨codes, -, rfl⟩ := Option.map_eq_some_iff.mp hp
      exact ⟨false, codes.map .code, rfl⟩
  | seq p q ihp => exact ihp hp
  | group g p ih => exact ih hp
  | withFlags on off p ih => exact ih hp
  | _ => cases hp

/-- A match begins with a character of the leading set, as the part that begins the pattern reads
it. -/
theorem exists_accepted_of_leading? {p : Pattern} {t : CharTest} (hp : p.leading? c.flags = some t)
    (h : (run text c p s k).Succeeds) :
    ∃ x, text[s.pos]? = some x ∧ t.accepts (p.leadingFlags c.flags) x.toNat = true := by
  induction p generalizing c s k with
  | char u =>
      cases u with
      | oneOf negated items =>
          rw [leading?] at hp
          split at hp
          · cases hp
          · cases hp
            exact succeeds_char h
      | code d => cases hp
      | notCode d => cases hp
      | any => cases hp
  | alt p q =>
      obtain ⟨codes, hcodes, rfl⟩ := Option.map_eq_some_iff.mp hp
      obtain ⟨x, hx, hmem⟩ := exists_first_of_firstCodes? hcodes h
      exact ⟨x, hx, accepts_codes rfl hmem⟩
  | seq p q ihp =>
      have hflags := Surroundings.flags_before c q
      rw [leading?, ← hflags] at hp
      rw [leadingFlags, ← hflags]
      exact ihp hp h
  | group g p ih => exact ih (c := c.closed) (s := s.beginGroup g) hp h
  | withFlags on off p ih => exact ih (c := { c with flags := c.flags.within on off }) hp h
  | _ => cases hp

end Pattern

end TextShell
