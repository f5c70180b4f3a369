import TextShell.Proofs.Files
import TextShell.Proofs.Files.Unread

/-!
# The line ends of a script

The lines of a script may be ended in three ways, and the last one need not be ended at all.  However
lines are written, the script has the same statements with the same numbers, and as its text is not
looked at again it runs the same.

The lines of what is written are the lines that were to be written, with one exception: an empty last
line that is not ended cannot be seen (`hasLines_ofLines`).  It would be no statement
(`Script.hasStatements_append_nil_iff`).  A carriage return that ends a line stands in front of no line
feed, because the next line begins with none (`lineFeed_not_mem_ofLines`).

## Main Definitions

* `LineEnd` — the ends of lines
* `Text.ofLines` — lines written one after the other
-/

namespace TextShell

/-- **The ends of lines.** -/
inductive LineEnd where
  | lineFeed
  | both
  | carriageReturn
  deriving DecidableEq, Repr

/-- The characters of the end. -/
def LineEnd.text : LineEnd → Text
  | .lineFeed => ['\n']
  | .both => ['\r', '\n']
  | .carriageReturn => ['\r']

/-- **Lines written one after the other**, each ended in the same way.  The last one is ended only if
`closed` says so. -/
def Text.ofLines (ending : LineEnd) (closed : Bool) : List Text → Text
  | [] => []
  | [line] => line ++ if closed then ending.text else []
  | line :: lines => line ++ (ending.text ++ ofLines ending closed lines)

/-! ## Lines that are written -/

section Lines

variable {ending : LineEnd} {closed : Bool} {line : Text} {lines : List Text}

/-- Nothing but line feeds brings a line feed in. -/
theorem lineFeed_not_mem_ofLines (h : ∀ line ∈ lines, Unbroken line) :
    '\n' ∉ Text.ofLines .carriageReturn closed lines := by
  have hend : '\n' ∉ LineEnd.carriageReturn.text := by decide
  fun_induction Text.ofLines .carriageReturn closed lines with
  | case1 => exact List.not_mem_nil
  | case2 line =>
      have hline := (h line List.mem_cons_self).lineFeed_not_mem
      cases closed <;> simp [hline, hend]
  | case3 line lines hne ih =>
      have hline := (h line List.mem_cons_self).lineFeed_not_mem
      have hlines := ih fun l hl => h l (List.mem_cons_of_mem _ hl)
      simp [hline, hend, hlines]

/-- Each of the three ends a line, whatever lines come after it. -/
theorem endsLine_ofLines (h : ∀ line ∈ lines, Unbroken line) :
    EndsLine ending.text (Text.ofLines ending closed lines) := by
  cases ending with
  | lineFeed => exact .lineFeed _
  | both => exact .both _
  | carriageReturn =>
      exact .carriageReturn fun hhead =>
        lineFeed_not_mem_ofLines h (List.mem_of_mem_head? hhead)

/-- **The lines of what is written** are those that were written, but for an empty last one that is
not ended. -/
theorem hasLines_ofLines (ending : LineEnd) (closed : Bool) (h : ∀ line ∈ lines, Unbroken line) :
    ∃ found, HasLines (Text.ofLines ending closed lines) found ∧
      (lines = found ∨ lines = found ++ [[]]) := by
  fun_induction Text.ofLines ending closed lines with
  | case1 => exact ⟨[], .empty, .inl rfl⟩
  | case2 line =>
      have hline := h line List.mem_cons_self
      cases closed with
      | true =>
          have hend : EndsLine ending.text (Text.ofLines ending true []) := endsLine_ofLines nofun
          have hfound := HasLines.ended hline hend .empty
          exact ⟨[line], by simpa [Text.ofLines] using hfound, .inl rfl⟩
      | false =>
          -- an empty line leaves no trace if it is not ended
          by_cases hne : line = []
          · exact ⟨[], by simpa [hne] using HasLines.empty, .inr (by simp [hne])⟩
          · exact ⟨[line], by simpa using HasLines.last hne hline, .inl rfl⟩
  | case3 line lines hne ih =>
      have hline := h line List.mem_cons_self
      have hlines := fun l hl => h l (List.mem_cons_of_mem _ hl)
      obtain ⟨found, hfound, hsame⟩ := ih hlines
      refine ⟨line :: found, .ended hline (endsLine_ofLines hlines) hfound, ?_⟩
      rcases hsame with rfl | rfl
      · exact .inl rfl
      · exact .inr rfl

end Lines

theorem Variables.eq_empty_of_entries {vars : Variables} (h : vars.entries = []) :
    vars = .empty := by
  obtain ⟨entries, hnodup⟩ := vars
  subst h
  rfl

namespace Script

/-! ## Statements -/

/-- An empty line at the end is no statement. -/
theorem hasStatements_append_nil_iff {lines : List Text} {numbered : List (Nat × Text)} :
    HasStatements (lines ++ [[]]) numbered ↔ HasStatements lines numbered := by
  -- a line that says something is found in both at the same place
  have hget : ∀ (i : Nat) (raw : Text), raw.trim ≠ [] →
      ((lines ++ [[]])[i]? = some raw ↔ lines[i]? = some raw) := by
    intro i raw hraw
    by_cases hi : i < lines.length
    · rw [List.getElem?_append_left hi]
    · have hle : lines.length ≤ i := Nat.le_of_not_lt hi
      rw [List.getElem?_append_right hle, List.getElem?_eq_none hle]
      refine ⟨fun hempty => ?_, nofun⟩
      obtain rfl : raw = [] := List.mem_singleton.mp (List.mem_of_getElem? hempty)
      exact absurd rfl hraw
  have hstatement : ∀ n line, (1 ≤ n ∧ ∃ raw : Text, (lines ++ [[]])[n - 1]? = some raw ∧
        line = raw.trim ∧ line ≠ [] ∧ line.head? ≠ some '#') ↔
      1 ≤ n ∧ ∃ raw : Text, lines[n - 1]? = some raw ∧ line = raw.trim ∧ line ≠ [] ∧
        line.head? ≠ some '#' := by
    intro n line
    refine and_congr Iff.rfl (exists_congr fun raw => and_congr_left ?_)
    rintro ⟨rfl, hne, -⟩
    exact hget (n - 1) raw hne
  constructor
  · rintro ⟨hascending, hmem⟩
    exact ⟨hascending, fun n line => (hmem n line).trans (hstatement n line)⟩
  · rintro ⟨hascending, hmem⟩
    exact ⟨hascending, fun n line => (hmem n line).trans (hstatement n line).symm⟩

/-- **However lines are written**, the script has their statements. -/
theorem hasStatements_lines_ofLines (ending : LineEnd) (closed : Bool) {lines : List Text}
    (h : ∀ line ∈ lines, Unbroken line) :
    HasStatements lines (Script.lines (Text.ofLines ending closed lines)) := by
  obtain ⟨found, hfound, rfl | rfl⟩ := hasLines_ofLines ending closed h
  · exact hasStatements_lines hfound
  · exact hasStatements_append_nil_iff.mpr (hasStatements_lines hfound)

/-- **Scripts do not depend on how their lines are ended.**  Lines, none of which holds a line feed or
a carriage return, have the same statements with the same numbers whichever of the three ends is used
and whether the last line is ended or not; other characters, such as those that end a line elsewhere,
end none.

So in any world the script at a path opens the file, and then does what these statements do.  The same
file may be rewritten with other ends as well: nothing changes at all, unless the statements
themselves read that file. -/
theorem run_ofLines {lines : List Text} (h : ∀ line ∈ lines, Unbroken line) :
    ∃ numbered, (∀ l, HasStatements lines l ↔ l = numbered) ∧
      (∀ w vars path ending closed, holdsNull path = false →
        w.entry path = .content (Utf8.encode (Text.ofLines ending closed lines)) →
        let t := runLines w vars numbered
        run w vars path = ⟨⟨.read path :: t.events, t.outcome⟩, t.vars⟩) ∧
      ∀ w w' vars path ending closed ending' closed', holdsNull path = false →
        World.AgreeBut path w w' →
        w.entry path = .content (Utf8.encode (Text.ofLines ending closed lines)) →
        w'.entry path = .content (Utf8.encode (Text.ofLines ending' closed' lines)) →
        .read path ∉ (runLines w vars numbered).events →
        run w' vars path = run w vars path := by
  have hstatements := hasStatements_lines_ofLines .lineFeed true h
  have hrun : ∀ w vars path ending closed, holdsNull path = false →
      w.entry path = .content (Utf8.encode (Text.ofLines ending closed lines)) →
      run w vars path =
        ⟨⟨.read path :: (runLines w vars (Script.lines (Text.ofLines .lineFeed true lines))).events,
          (runLines w vars (Script.lines (Text.ofLines .lineFeed true lines))).outcome⟩,
          (runLines w vars (Script.lines (Text.ofLines .lineFeed true lines))).vars⟩ := by
    intro w vars path ending closed hpath hentry
    -- the text is not looked at again after it was cut, and its lines have the same statements
    have hsame := (hasStatements_lines_ofLines ending closed h).unique hstatements
    rw [run_of_load_ok (load_of_encode hpath hentry), hsame]
    rfl
  refine ⟨_, fun l => ⟨fun hl => hl.unique hstatements, fun hl => hl ▸ hstatements⟩, hrun, ?_⟩
  intro w w' vars path ending closed ending' closed' hpath hagree hentry hentry' hread
  rw [hrun w' vars path ending' closed' hpath hentry', hrun w vars path ending closed hpath hentry,
    runLines_congr hagree hread]

/-- An empty line, and one with a character that ends a line elsewhere.  The program that it names is
not found. -/
theorem run_ofLines_vertical_tab :
    let lines : List Text := [[], ['a', '\x0b', 'b']]
    let w : World := ⟨fun path =>
        if path = ['s'] then some (.content (Utf8.encode (Text.ofLines .both true lines)))
        else if path = ['t'] then
          some (.content (Utf8.encode (Text.ofLines .carriageReturn false lines)))
        else none,
      fun _ _ _ => .refused [], ['/']⟩
    let w' := w.put ['s'] (.content (Utf8.encode (Text.ofLines .lineFeed false lines)))
    (∀ line ∈ lines, Unbroken line) ∧ holdsNull ['s'] = false ∧ holdsNull ['t'] = false ∧
      w.AgreeBut ['s'] w' ∧
      (∃ events, .printed "Error at line 2: a: command not found\n" ∈ events ∧
        run w .empty ['s'] = ⟨⟨.read ['s'] :: events, .ok 1⟩, .empty⟩ ∧
        run w .empty ['t'] = ⟨⟨.read ['t'] :: events, .ok 1⟩, .empty⟩) ∧
      run w' .empty ['s'] = run w .empty ['s'] := by
  intro lines w w'
  have hlines : ∀ line ∈ lines, Unbroken line := by decide
  have hs : holdsNull ['s'] = false := by decide
  have ht : holdsNull ['t'] = false := by decide
  have hagree : w.AgreeBut ['s'] w' :=
    ⟨fun p hp => by simp [w', World.put, hp], rfl, rfl⟩
  obtain ⟨numbered, hnumbered, hrun, hrewritten⟩ := run_ofLines hlines
  have hstatements : numbered = [(2, ['a', '\x0b', 'b'])] :=
    ((hnumbered _).mp (hasStatements_lines_ofLines .lineFeed true hlines)).symm.trans (by decide)
  have hread : .read ['s'] ∉ (runLines w .empty numbered).events := by
    rw [hstatements]
    decide +kernel
  have hprinted : .printed "Error at line 2: a: command not found\n" ∈
      (runLines w .empty numbered).events := by
    rw [hstatements]
    decide +kernel
  have houtcome : (runLines w .empty numbered).outcome = .ok 1 := by
    rw [hstatements]
    exact eq_ok_of_toOption (by decide +kernel)
  have hvars : (runLines w .empty numbered).vars = .empty := by
    rw [hstatements]
    exact Variables.eq_empty_of_entries (by decide +kernel)
  refine ⟨hlines, hs, ht, hagree, ⟨_, hprinted, ?_, ?_⟩,
    hrewritten w w' .empty ['s'] .both true .lineFeed false hs hagree rfl rfl hread⟩
  · rw [hrun w .empty ['s'] .both true hs rfl, houtcome, hvars]
  · rw [hrun w .empty ['t'] .carriageReturn false ht rfl, houtcome, hvars]

end Script

end TextShell
