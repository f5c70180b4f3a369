import Mathlib.Data.List.DropRight
import TextShell.Proofs.Grep.Window

/-!
# Selecting among selected lines

Every selected line is written with a line feed, so that a second selection reads the lines of the
first and, after the last line feed, an empty line (`pieces_filterLines`).

On the lines themselves a second selection with the same settings changes nothing
(`selectLines_selectLines`): a line that follows a match closely enough has no line dropped in
between, so its distance from the match stays the same.  The empty line at the end is all that can
come in.  It does if the pattern is found in it or if a line is left to select after the last match,
which is a matter of distance again (`lt_linesLeft_iff`).

## Main Definitions

* `endedLines` — the lines of a text that a line feed ends
-/

namespace TextShell

/-- The lines of a text that a line feed ends. -/
def endedLines (t : Text) : List Text :=
  (t.pieces '\n').dropLast

variable {isMatch : Text → Bool} {after left : Nat} {lines : List Text}

/-! ## Lines that are read again -/

/-- Lines that are written with a line feed each are read again, and an empty line after them. -/
theorem pieces_flatMap_endLine (h : ∀ line ∈ lines, '\n' ∉ line) :
    Text.pieces '\n' (lines.flatMap endLine) = lines ++ [[]] := by
  induction lines with
  | nil => rfl
  | cons line lines ih =>
      have htail := ih fun l hl => h l (List.mem_cons_of_mem _ hl)
      rw [List.flatMap_cons, endLine, List.append_assoc, List.singleton_append,
        Text.pieces_append_cons (h line List.mem_cons_self), htail]
      rfl

theorem selectLines_sublist : (selectLines isMatch after left lines).Sublist lines := by
  induction lines generalizing left with
  | nil => exact List.Sublist.slnil
  | cons line lines ih =>
      rw [selectLines_cons]
      split
      · exact ih.cons_cons line
      · exact ih.cons line

/-- The selected lines of a text are read again, and an empty line after them. -/
theorem pieces_filterLines (isMatch : Text → Bool) (after : Nat) (text : Text) :
    (filterLines isMatch after text).pieces '\n' =
      selectLines isMatch after 0 (text.pieces '\n') ++ [[]] :=
  pieces_flatMap_endLine fun _ hline =>
    Text.not_mem_of_mem_pieces (selectLines_sublist.subset hline)

theorem endedLines_filterLines (isMatch : Text → Bool) (after : Nat) (text : Text) :
    endedLines (filterLines isMatch after text) =
      selectLines isMatch after 0 (text.pieces '\n') := by
  rw [endedLines, pieces_filterLines, List.dropLast_concat]

/-- What a second selection writes: what it selects of the lines of the first, and the empty line
after them if it selects that as well. -/
theorem filterLines_filterLines_eq (isMatch isMatch' : Text → Bool) (after after' : Nat)
    (text : Text) :
    let first := selectLines isMatch after 0 (text.pieces '\n')
    filterLines isMatch' after' (filterLines isMatch after text) =
      (selectLines isMatch' after' 0 first).flatMap endLine ++
        if isMatch' [] = true ∨ 0 < linesLeft isMatch' after' 0 first then ['\n'] else [] := by
  intro first
  -- the empty line comes last, so it only sees what the lines before it have left to select
  rw [filterLines, pieces_filterLines, selectLines_append, selectLines_cons, selectLines,
    List.append_nil, List.flatMap_append]
  congr 1
  split
  · rfl
  · rfl

/-! ## Without further lines -/

/-- Without further lines after a match nothing is ever left to select. -/
theorem linesLeft_zero : linesLeft isMatch 0 0 lines = 0 := by
  induction lines with
  | nil => rfl
  | cons line lines ih => rw [linesLeft, ite_self, ih]

/-- Without further lines after a match exactly the lines that match are selected. -/
theorem selectLines_zero : selectLines isMatch 0 0 lines = lines.filter isMatch := by
  induction lines with
  | nil => rfl
  | cons line lines ih =>
      rw [selectLines_cons, ite_self, ih, List.filter_cons]
      by_cases hmatch : isMatch line = true
      · simp [hmatch]
      · simp [hmatch]

/-- Two selections after each other select the lines that both would, and the empty line at the end
if the second one would. -/
theorem filterLines_zero_filterLines_zero (p q : Text → Bool) (text : Text) :
    filterLines q 0 (filterLines p 0 text) =
      ((text.pieces '\n').filter fun line => p line && q line).flatMap endLine ++
        if q [] = true then ['\n'] else [] := by
  have hfilter : ((text.pieces '\n').filter p).filter q =
      (text.pieces '\n').filter fun line => p line && q line := by
    rw [List.filter_filter]
    exact List.filter_congr fun line _ => Bool.and_comm _ _
  rw [filterLines_filterLines_eq, selectLines_zero, selectLines_zero, linesLeft_zero, hfilter]
  simp

/-! ## The same selection twice -/

/-- **Selecting twice selects the same lines.** -/
theorem selectLines_selectLines :
    selectLines isMatch after left (selectLines isMatch after left lines) =
      selectLines isMatch after left lines := by
  induction lines generalizing left with
  | nil => rfl
  | cons line lines ih =>
      rw [selectLines_cons]
      by_cases hselected : isMatch line = true ∨ 0 < left
      · rw [if_pos hselected, List.singleton_append, selectLines_cons, if_pos hselected, ih]
        rfl
      · -- the line is dropped and nothing is left, before it as after it
        obtain ⟨hno, hleft⟩ := not_or.mp hselected
        obtain rfl : left = 0 := by omega
        rw [if_neg hselected, if_neg hno, List.nil_append]
        exact ih

/-- A line is left to select exactly if one of the last lines matches. -/
theorem linesLeft_pos_iff :
    0 < linesLeft isMatch after 0 lines ↔ ∃ line ∈ lines.rtake after, isMatch line = true := by
  rw [lt_linesLeft_iff]
  constructor
  · rintro ⟨j, hle, line, hline, hmatch⟩
    refine ⟨line, List.mem_iff_getElem?.mpr ⟨j - (lines.length - after), ?_⟩, hmatch⟩
    rw [List.rtake, List.getElem?_drop, Nat.add_sub_cancel' (by omega)]
    exact hline
  · rintro ⟨line, hmem, hmatch⟩
    obtain ⟨k, hk⟩ := List.mem_iff_getElem?.mp hmem
    rw [List.rtake, List.getElem?_drop] at hk
    exact ⟨lines.length - after + k, by omega, line, hk, hmatch⟩

/-- The same selection again adds at most the empty line at the end. -/
theorem filterLines_filterLines_self (isMatch : Text → Bool) (after : Nat) (text : Text) :
    filterLines isMatch after (filterLines isMatch after text) =
      filterLines isMatch after text ++
        if isMatch [] = true ∨ ∃ line ∈ (endedLines (filterLines isMatch after text)).rtake after,
            isMatch line = true
        then ['\n'] else [] := by
  rw [filterLines_filterLines_eq, selectLines_selectLines, endedLines_filterLines]
  simp only [linesLeft_pos_iff]
  rfl

/-- For compiled patterns the second selection reads what the first writes, unless the search is
refused in one of the lines of either. -/
theorem Regex.select_bind_select (r r' : Regex) (after after' : Nat) (text : Text) :
    (r.select after text >>= r'.select after') =
      let first := filterLines r.found after text
      if (text.pieces '\n').any r.misplaces || (first.pieces '\n').any r'.misplaces then
        .error .groupSpan
      else .ok (filterLines r'.found after' first) := by
  unfold Regex.select
  cases (text.pieces '\n').any r.misplaces with
  | true => rfl
  | false => rfl

end TextShell
