import Mathlib.Data.List.Basic
import Mathlib.Data.List.Induction
import TextShell.Grep.Filter

/-!
# Which lines are selected

`selectLines` reads the lines once and remembers a single number, how many more lines it selects
because of an earlier match.  What it selects is a matter of distances: a line counts if it matches
or if one of the `after` lines before it does (`InWindow`).

The number and the distances are tied together by one equivalence (`lt_linesLeft_iff`): more than
`m` lines are left exactly if some line matches and at most `after - m` lines were read since.  It
is proved for every `m`, since a line that does not match takes one off the number and so turns the
statement for `m` into that for `m + 1`.

## Main Definitions

* `linesLeft` — the number that is remembered after some lines
* `InWindow` — a line matches, or one of the lines right before it does
* `selectedNumbers` — the numbers of the lines that count
-/

namespace TextShell

/-- How many more lines are selected after some lines because of a match in them, or because of
`left` that were left before them. -/
def linesLeft (isMatch : Text → Bool) (after : Nat) : Nat → List Text → Nat
  | left, [] => left
  | left, line :: lines => linesLeft isMatch after (if isMatch line then after else left - 1) lines

/-- Line number `i` matches, or one of the `after` lines before it does. -/
def InWindow (isMatch : Text → Bool) (after : Nat) (lines : List Text) (i : Nat) : Prop :=
  ∃ j ≤ i, i ≤ j + after ∧ ∃ line ∈ lines[j]?, isMatch line = true

instance (isMatch : Text → Bool) (after : Nat) (lines : List Text) (i : Nat) :
    Decidable (InWindow isMatch after lines i) :=
  inferInstanceAs (Decidable (∃ j ≤ i, i ≤ j + after ∧ ∃ line ∈ lines[j]?, isMatch line = true))

/-- The numbers of the lines that match or follow a match closely, in order. -/
def selectedNumbers (isMatch : Text → Bool) (after : Nat) (lines : List Text) : List Nat :=
  (List.range lines.length).filter fun i => decide (InWindow isMatch after lines i)

variable {isMatch : Text → Bool} {after left : Nat} {lines : List Text}

/-! ## The number that is remembered -/

theorem linesLeft_append (lines' : List Text) :
    linesLeft isMatch after left (lines ++ lines') =
      linesLeft isMatch after (linesLeft isMatch after left lines) lines' := by
  induction lines generalizing left with
  | nil => rfl
  | cons line lines ih => rw [List.cons_append, linesLeft, linesLeft, ih]

/-- A line is selected if it matches or if one is left to select. -/
theorem selectLines_cons (line : Text) :
    selectLines isMatch after left (line :: lines) =
      (if isMatch line = true ∨ 0 < left then [line] else []) ++
        selectLines isMatch after (if isMatch line then after else left - 1) lines := by
  by_cases hmatch : isMatch line = true
  · simp [selectLines, hmatch]
  · cases left with
    | zero => simp [selectLines, hmatch]
    | succ n => simp [selectLines, hmatch]

/-- The lines that are selected of two lists are those of the first, then those of the second with
what the first has left to select. -/
theorem selectLines_append (lines' : List Text) :
    selectLines isMatch after left (lines ++ lines') =
      selectLines isMatch after left lines ++
        selectLines isMatch after (linesLeft isMatch after left lines) lines' := by
  induction lines generalizing left with
  | nil => rfl
  | cons line lines ih =>
      rw [List.cons_append, selectLines_cons, selectLines_cons, ih, linesLeft, List.append_assoc]

/-- **What is remembered is a distance**: more than `m` lines are left exactly if one of the lines
matches and has at most `after - m` lines from itself to the end. -/
theorem lt_linesLeft_iff {m : Nat} :
    m < linesLeft isMatch after 0 lines ↔
      ∃ j, lines.length + m ≤ j + after ∧ ∃ line ∈ lines[j]?, isMatch line = true := by
  induction lines using List.reverseRecOn generalizing m with
  | nil => simp [linesLeft]
  | append_singleton lines line ih =>
      rw [linesLeft_append, linesLeft, linesLeft, List.length_append, List.length_singleton]
      by_cases hmatch : isMatch line = true
      · rw [if_pos hmatch]
        constructor
        · intro hlt
          exact ⟨lines.length, by omega, line, by simp, hmatch⟩
        · rintro ⟨j, hle, line', hline', -⟩
          have hj : j < (lines ++ [line]).length := (List.getElem?_eq_some_iff.mp hline').1
          rw [List.length_append, List.length_singleton] at hj
          omega
      · -- the last line does not match, so it takes one off and moves no match
        have hshift : m < linesLeft isMatch after 0 lines - 1 ↔
            m + 1 < linesLeft isMatch after 0 lines := by omega
        rw [if_neg hmatch, hshift, ih]
        constructor
        · rintro ⟨j, hle, line', hline', hmatch'⟩
          have hj : j < lines.length := (List.getElem?_eq_some_iff.mp hline').1
          exact ⟨j, by omega, line', by rwa [List.getElem?_append_left hj], hmatch'⟩
        · rintro ⟨j, hle, line', hline', hmatch'⟩
          by_cases hj : j < lines.length
          · rw [List.getElem?_append_left hj] at hline'
            exact ⟨j, by omega, line', hline', hmatch'⟩
          · have hlast : line' = line := by
              rw [List.getElem?_append_right (by omega)] at hline'
              simpa using List.mem_of_getElem? hline'
            rw [hlast] at hmatch'
            exact absurd hmatch' hmatch

/-! ## What is selected -/

/-- Lines further on play no part in the window of a line. -/
theorem inWindow_append_iff {i : Nat} (hi : i < lines.length) (lines' : List Text) :
    InWindow isMatch after (lines ++ lines') i ↔ InWindow isMatch after lines i := by
  unfold InWindow
  have hsame : ∀ j ≤ i, (lines ++ lines')[j]? = lines[j]? := fun j hji =>
    List.getElem?_append_left (Nat.lt_of_le_of_lt hji hi)
  constructor
  · rintro ⟨j, hji, hij, hline⟩
    rw [hsame j hji] at hline
    exact ⟨j, hji, hij, hline⟩
  · rintro ⟨j, hji, hij, hline⟩
    rw [← hsame j hji] at hline
    exact ⟨j, hji, hij, hline⟩

/-- The last line counts if it matches or if the lines before it have left one to select. -/
theorem inWindow_length_iff (line : Text) :
    InWindow isMatch after (lines ++ [line]) lines.length ↔
      isMatch line = true ∨ 0 < linesLeft isMatch after 0 lines := by
  rw [lt_linesLeft_iff]
  constructor
  · rintro ⟨j, hji, hij, line', hline', hmatch⟩
    rcases Nat.lt_or_eq_of_le hji with hj | rfl
    · rw [List.getElem?_append_left hj] at hline'
      exact Or.inr ⟨j, hij, line', hline', hmatch⟩
    · obtain rfl : line = line' := by simpa using hline'
      exact Or.inl hmatch
  · rintro (hmatch | ⟨j, hle, line', hline', hmatch⟩)
    · exact ⟨lines.length, Nat.le_refl _, by omega, line, by simp, hmatch⟩
    · have hj : j < lines.length := (List.getElem?_eq_some_iff.mp hline').1
      exact ⟨j, by omega, hle, line', by rwa [List.getElem?_append_left hj], hmatch⟩

theorem mem_selectedNumbers {i : Nat} :
    i ∈ selectedNumbers isMatch after lines ↔
      i < lines.length ∧ InWindow isMatch after lines i := by
  simp [selectedNumbers]

/-- The numbers of the lines stay when another line follows. -/
theorem selectedNumbers_append_singleton (line : Text) :
    selectedNumbers isMatch after (lines ++ [line]) =
      selectedNumbers isMatch after lines ++
        if isMatch line = true ∨ 0 < linesLeft isMatch after 0 lines then [lines.length]
        else [] := by
  -- no window of an earlier line reaches the new one
  have hbefore : (List.range lines.length).filter
        (fun i => decide (InWindow isMatch after (lines ++ [line]) i)) =
      selectedNumbers isMatch after lines := by
    refine List.filter_congr fun i hi => ?_
    rw [decide_eq_decide, inWindow_append_iff (List.mem_range.mp hi)]
  rw [selectedNumbers, List.length_append, List.length_singleton, List.range_succ,
    List.filter_append, hbefore, List.filter_singleton]
  by_cases h : isMatch line = true ∨ 0 < linesLeft isMatch after 0 lines
  · rw [if_pos h, decide_eq_true ((inWindow_length_iff line).mpr h)]
    rfl
  · rw [if_neg h, decide_eq_false fun hin => h ((inWindow_length_iff line).mp hin)]
    rfl

/-- **The lines that are selected** are those that match or follow a match closely. -/
theorem selectLines_eq :
    selectLines isMatch after 0 lines =
      (selectedNumbers isMatch after lines).filterMap (lines[·]?) := by
  induction lines using List.reverseRecOn with
  | nil => rfl
  | append_singleton lines line ih =>
      have hbefore : (selectedNumbers isMatch after lines).filterMap ((lines ++ [line])[·]?) =
          (selectedNumbers isMatch after lines).filterMap (lines[·]?) := by
        refine List.filterMap_congr fun i hi => ?_
        rw [List.getElem?_append_left (mem_selectedNumbers.mp hi).1]
      rw [selectLines_append, ih, selectLines_cons, selectedNumbers_append_singleton,
        List.filterMap_append, hbefore, selectLines, List.append_nil]
      split
      · simp
      · rfl

/-- A larger number of lines after each match only adds lines. -/
theorem selectedNumbers_sublist_add (more : Nat) :
    (selectedNumbers isMatch after lines).Sublist
      (selectedNumbers isMatch (after + more) lines) := by
  refine List.monotone_filter_right _ fun i hi => ?_
  obtain ⟨j, hji, hij, hline⟩ := of_decide_eq_true hi
  exact decide_eq_true ⟨j, hji, by omega, hline⟩

theorem pairwise_selectedNumbers : (selectedNumbers isMatch after lines).Pairwise (· < ·) :=
  List.pairwise_lt_range.filter _

/-- Two windows that overlap: the line after the second match is the last one that is selected. -/
example :
    filterLines (fun line => line == ['m']) 1 ['a', '\n', 'm', '\n', 'm', '\n', 'b', '\n', 'c'] =
      ['m', '\n', 'm', '\n', 'b', '\n'] := by
  decide

end TextShell
