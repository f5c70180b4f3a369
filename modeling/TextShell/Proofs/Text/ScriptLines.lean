import TextShell.Text.Lines

/-!
# The lines of a script

A text is cut into lines in one way only: a line is ended by a line feed, by a carriage return or by
the two together, no line holds either of them, and what stands after the last end is a line unless
it is empty (`HasLines`).  `Text.scriptLines` finds these lines.

A carriage return right before a line feed is no end of its own.  This is what makes the lines
unique.
-/

namespace TextShell

/-- A text that holds no end of a line. -/
def Unbroken (t : Text) : Prop :=
  ∀ c ∈ t, c ≠ '\n' ∧ c ≠ '\r'

instance (t : Text) : Decidable (Unbroken t) :=
  List.decidableBAll _ t

theorem Unbroken.lineFeed_not_mem {t : Text} (h : Unbroken t) : '\n' ∉ t :=
  fun hc => (h _ hc).1 rfl

/-- The ends of a line, by what follows them. -/
inductive EndsLine : Text → Text → Prop
  | lineFeed (rest : Text) : EndsLine ['\n'] rest
  | both (rest : Text) : EndsLine ['\r', '\n'] rest
  | carriageReturn {rest : Text} : rest.head? ≠ some '\n' → EndsLine ['\r'] rest

/-- **The lines of a text**, without their ends. -/
inductive HasLines : Text → List Text → Prop
  | empty : HasLines [] []
  | last {line : Text} : line ≠ [] → Unbroken line → HasLines line [line]
  | ended {line ending rest : Text} {lines : List Text} : Unbroken line → EndsLine ending rest →
      HasLines rest lines → HasLines (line ++ (ending ++ rest)) (line :: lines)

namespace Text

/-! ## Line ends as line feeds -/

/-- A text without line ends stays as it is. -/
theorem unifyLineEnds_append {line : Text} (h : Unbroken line) (t : Text) :
    (line ++ t).unifyLineEnds = line ++ t.unifyLineEnds := by
  induction line with
  | nil => rfl
  | cons c cs ih =>
      have hc : c ≠ '\r' := (h c List.mem_cons_self).2
      have hcs := ih fun d hd => h d (List.mem_cons_of_mem _ hd)
      rw [List.cons_append, unifyLineEnds, if_neg hc, hcs, List.cons_append]
      rintro ds rfl
      exact absurd rfl hc

/-- Every end of a line becomes a line feed. -/
theorem unifyLineEnds_of_endsLine {ending rest : Text} (h : EndsLine ending rest) :
    (ending ++ rest).unifyLineEnds = '\n' :: rest.unifyLineEnds := by
  cases h with
  | lineFeed => rfl
  | both => rfl
  | carriageReturn hrest =>
      rw [List.singleton_append, unifyLineEnds, if_pos rfl]
      rintro ds - rfl
      exact absurd rfl hrest

/-! ## Lines -/

theorem scriptLines_of_unbroken {line : Text} (hne : line ≠ []) (h : Unbroken line) :
    line.scriptLines = [line] := by
  have hunify : line.unifyLineEnds = line := by
    have happ := unifyLineEnds_append h []
    rwa [List.append_nil, unifyLineEnds, List.append_nil] at happ
  have hlast : [line].getLast? ≠ some [] := by simpa using hne
  rw [scriptLines, hunify, pieces_of_not_mem h.lineFeed_not_mem, if_neg hlast]

/-- The line before an end is the first line. -/
theorem scriptLines_append {line ending rest : Text} (h : Unbroken line)
    (hend : EndsLine ending rest) :
    (line ++ (ending ++ rest)).scriptLines = line :: rest.scriptLines := by
  have hcut : (line ++ (ending ++ rest)).unifyLineEnds.pieces '\n' =
      line :: rest.unifyLineEnds.pieces '\n' := by
    rw [unifyLineEnds_append h, unifyLineEnds_of_endsLine hend,
      pieces_append_cons h.lineFeed_not_mem]
  have hne : rest.unifyLineEnds.pieces '\n' ≠ [] := piecesBy_ne_nil _ _
  obtain ⟨part, parts, hparts⟩ := List.exists_cons_of_ne_nil hne
  rw [scriptLines, hcut, scriptLines, hparts, List.getLast?_cons_cons, List.dropLast_cons_cons]
  split <;> rfl

end Text

/-! ## One way only -/

/-- Whatever is cut into lines is cut into those of the script. -/
theorem HasLines.eq_scriptLines {t : Text} {lines : List Text} (h : HasLines t lines) :
    lines = t.scriptLines := by
  induction h with
  | empty => rfl
  | last hne hline => exact (Text.scriptLines_of_unbroken hne hline).symm
  | ended hline hend hrest ih => rw [Text.scriptLines_append hline hend, ih]

/-- Every text is a line up to its first line end, if there is one. -/
theorem exists_line (t : Text) :
    Unbroken t ∨ ∃ line ending rest, Unbroken line ∧ EndsLine ending rest ∧
      t = line ++ (ending ++ rest) := by
  induction t with
  | nil => exact Or.inl nofun
  | cons c cs ih =>
      by_cases hn : c = '\n'
      · subst hn
        exact Or.inr ⟨[], ['\n'], cs, nofun, .lineFeed cs, rfl⟩
      by_cases hr : c = '\r'
      · subst hr
        cases cs with
        | nil => exact Or.inr ⟨[], ['\r'], [], nofun, .carriageReturn nofun, rfl⟩
        | cons d ds =>
            by_cases hd : d = '\n'
            · subst hd
              exact Or.inr ⟨[], ['\r', '\n'], ds, nofun, .both ds, rfl⟩
            · have hhead : (d :: ds).head? ≠ some '\n' := by simpa using hd
              exact Or.inr ⟨[], ['\r'], d :: ds, nofun, .carriageReturn hhead, rfl⟩
      · rcases ih with hcs | ⟨line, ending, rest, hline, hend, rfl⟩
        · refine Or.inl fun d hd => ?_
          rcases List.mem_cons.mp hd with rfl | hd
          · exact ⟨hn, hr⟩
          · exact hcs d hd
        · refine Or.inr ⟨c :: line, ending, rest, fun d hd => ?_, hend, rfl⟩
          rcases List.mem_cons.mp hd with rfl | hd
          · exact ⟨hn, hr⟩
          · exact hline d hd

/-- Every text has lines. -/
theorem hasLines_scriptLines (t : Text) : HasLines t t.scriptLines := by
  induction hlen : t.length using Nat.strongRecOn generalizing t with
  | _ n ih =>
      rcases exists_line t with ht | ⟨line, ending, rest, hline, hend, rfl⟩
      · by_cases hne : t = []
        · subst hne
          exact HasLines.empty
        · rw [Text.scriptLines_of_unbroken hne ht]
          exact HasLines.last hne ht
      · have hshorter : rest.length < n := by
          have hpos : 0 < ending.length := by cases hend <;> simp
          rw [List.length_append, List.length_append] at hlen
          omega
        rw [Text.scriptLines_append hline hend]
        exact HasLines.ended hline hend (ih _ hshorter rest rfl)

/-- **A text has the lines of the script and no others.** -/
theorem hasLines_iff {t : Text} {lines : List Text} : HasLines t lines ↔ lines = t.scriptLines :=
  ⟨HasLines.eq_scriptLines, fun h => h ▸ hasLines_scriptLines t⟩

end TextShell
