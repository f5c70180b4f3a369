import TextShell.Proofs.Pattern.Enclosing

/-!
# Which patterns can be looked for as whole words

Looking for whole words puts the text of a pattern between an opening and a closing bracket, with a
word boundary on either side.  Where the pattern stands for itself this is as good a pattern as it
was before.  It does not stand for itself in two cases.

* It opens with flags for the whole pattern, perhaps after comments.  They have to come first, so a
  pattern that is accepted alone is refused between brackets.
* It closes a bracket that it did not open.  That is refused alone, but between brackets it closes
  the bracket that was put before it, and a bracket that it opens later takes the one that was put
  after it: the boundaries then belong to its alternatives and no longer to the whole.

## Main Definitions

* `GrepOptions.anywhere`, `GrepOptions.asWords` — the same options without and with looking for
  whole words only
-/

namespace TextShell

theorem isOk_iff {ε α : Type} {x : Except ε α} : x.isOk = true ↔ ∃ a, x = .ok a := by
  cases x with
  | error e => exact ⟨nofun, nofun⟩
  | ok a => exact ⟨fun _ => ⟨a, rfl⟩, fun _ => rfl⟩

namespace GrepOptions

/-- The same options, with matches anywhere in a line. -/
def anywhere (o : GrepOptions) : GrepOptions :=
  { o with wholeWord := false }

/-- The same options, with matches of whole words only. -/
def asWords (o : GrepOptions) : GrepOptions :=
  { o with wholeWord := true }

/-- The pattern that some options ask for, alone and enclosed. -/
theorem regex_compared (o : GrepOptions) :
    Regex.Compared o.pattern o.anywhere.regex o.asWords.regex :=
  Regex.compile_compared o.ignoreCase o.pattern

/-- Where both are accepted, the one is the other between boundaries. -/
theorem eq_betweenBoundaries_of_regex {o : GrepOptions} {r q : Regex}
    (hr : o.anywhere.regex = .ok r) (hq : o.asWords.regex = .ok q) : q = r.betweenBoundaries := by
  cases o.regex_compared with
  | both r' halone henclosed =>
      rw [hr] at halone
      rw [hq] at henclosed
      cases halone
      exact Except.ok.inj henclosed
  | unbalanced place halone =>
      rw [hr] at halone
      cases halone
  | fails henclosed halone => exact absurd hq (henclosed q)

/-- **Which patterns are accepted as whole words.**  A pattern that is accepted alone is accepted
unless it opens with flags for the whole pattern, and one that is refused alone is refused, unless
the complaint is about a closing bracket too many. -/
theorem asWords_accepted (o : GrepOptions) :
    ((∃ r, o.anywhere.regex = .ok r) →
      ((∃ r, o.asWords.regex = .ok r) ↔ ¬OpensWithFlags (Token.ofText o.pattern).1)) ∧
    ((∃ r, o.asWords.regex = .ok r) →
      (∃ r, o.anywhere.regex = .ok r) ∨
        ∃ place, o.anywhere.regex = .error (.malformed .unbalanced place)) := by
  have hflags : OpensWithFlags (Token.ofText o.pattern).1 → ¬∃ r, o.asWords.regex = .ok r := by
    rintro hopens ⟨r, hr⟩
    exact Regex.compile_wholeWords_ne_ok hopens o.ignoreCase r hr
  cases o.regex_compared with
  | both r halone henclosed =>
      exact ⟨fun _ => ⟨fun hok hopens => hflags hopens hok, fun _ => ⟨_, henclosed⟩⟩,
        fun _ => .inl ⟨r, halone⟩⟩
  | unbalanced place halone =>
      refine ⟨?_, fun _ => .inr ⟨place, halone⟩⟩
      rintro ⟨r, hr⟩
      rw [halone] at hr
      cases hr
  | fails henclosed halone =>
      refine ⟨?_, ?_⟩
      · rintro ⟨r, hr⟩
        exact ⟨fun hok hopens => hflags hopens hok, fun hnot => absurd (halone r hr) hnot⟩
      · rintro ⟨r, hr⟩
        exact absurd hr (henclosed r)

/-- A choice between groups is accepted alone and as a whole word. -/
theorem asWords_accepted_groups :
    let o : GrepOptions := { pattern := ['(', 'a', '|', '(', '?', ':', 'b', ')', ')'] }
    (∃ r, o.anywhere.regex = .ok r) ∧ (∃ r, o.asWords.regex = .ok r) ∧
      ¬OpensWithFlags (Token.ofText o.pattern).1 := by
  intro o
  have hanywhere : ∃ r, o.anywhere.regex = .ok r := isOk_iff.mp (by decide +kernel)
  have hasWords : ∃ r, o.asWords.regex = .ok r := by
    show ∃ r, Regex.compile _ (wholeWords o.pattern) = .ok r
    rw [wholeWords_eq]
    exact isOk_iff.mp (by decide +kernel)
  exact ⟨hanywhere, hasWords, ((asWords_accepted o).1 hanywhere).mp hasWords⟩

/-- A closing bracket too many is made good, and flags for the whole pattern are refused. -/
theorem not_accepted_alike :
    (¬∀ o : GrepOptions, (∃ r, o.asWords.regex = .ok r) → ∃ r, o.anywhere.regex = .ok r) ∧
      ¬∀ o : GrepOptions, (∃ r, o.anywhere.regex = .ok r) → ∃ r, o.asWords.regex = .ok r := by
  refine ⟨fun h => ?_, fun h => ?_⟩
  · have hasWords : ∃ r, Regex.compile {} (wholeWords ['a', ')', '(', 'b']) = .ok r := by
      rw [wholeWords_eq]
      exact isOk_iff.mp (by decide +kernel)
    have hanywhere := isOk_iff.mpr (h { pattern := ['a', ')', '(', 'b'] } hasWords)
    exact absurd hanywhere (by decide +kernel)
  · have hanywhere : ∃ r, Regex.compile {} ['(', '?', 'i', ')', 'a'] = .ok r :=
      isOk_iff.mp (by decide +kernel)
    have hasWords : (Regex.compile {} (wholeWords ['(', '?', 'i', ')', 'a'])).isOk = true :=
      isOk_iff.mpr (h { pattern := ['(', '?', 'i', ')', 'a'] } hanywhere)
    rw [wholeWords_eq] at hasWords
    exact absurd hasWords (by decide +kernel)

end GrepOptions

end TextShell
