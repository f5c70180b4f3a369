import TextShell.Proofs.Session.Line

/-!
# Lines that do not depend on each other

A line reads the variables that it refers to and writes at most one, so two lines whose reads and
writes do not meet may be run in either order.

* **Reads.**  Variables play a part in a line only through the values that are put in place of its
  references, and there a variable without a value counts as empty.  Under any two variable states
  that agree on the references (`AgreeOn`) a line says the same, so it has the same effects and the
  same outcome (`Session.run_runLine_congr`).
* **Writes.**  What is found under a name changes only through an assignment to it
  (`Variables.get?_after_of_no_assignment`).

What a line assigns to is known only once its own references are replaced, so `Independent` speaks
of the two lines under the variables that the first one of them meets.  That this does not change
when the other line is run first is a part of what is shown (`Session.runLine_comm`).
-/

namespace TextShell

/-- Under some variables, a line assigns to a name. -/
def AssignsTo (vars : Variables) (line name : Text) : Prop :=
  ∃ value, Statement.ofLine vars.lookup line = some (.assignment name value)

/-- **Two lines are independent** if neither writes what the other reads or writes. -/
structure Independent (vars : Variables) (line line' : Text) : Prop where
  /-- The first line assigns to no name that the second one refers to. -/
  not_read : ∀ name, AssignsTo vars line name → ¬ RefersTo line' name
  /-- The second line assigns to no name that the first one refers to. -/
  not_read' : ∀ name, AssignsTo vars line' name → ¬ RefersTo line name
  /-- They do not assign to the same name. -/
  not_both : ∀ name, AssignsTo vars line name → ¬ AssignsTo vars line' name

theorem Independent.symm {vars : Variables} {line line' : Text} (h : Independent vars line line') :
    Independent vars line' line :=
  ⟨h.not_read', h.not_read, fun name hline' hline => h.not_both name hline hline'⟩

/-- Two variable states that a line cannot tell apart: the names that it refers to have the same
values in both, where no value counts as an empty one. -/
def AgreeOn (line : Text) (vars vars' : Variables) : Prop :=
  ∀ name, RefersTo line name → vars.lookup name = vars'.lookup name

/-! ## Reads -/

namespace AgreeOn

variable {line : Text} {vars vars' : Variables}

/-- A line says the same under variables that it cannot tell apart. -/
theorem ofLine_eq (h : AgreeOn line vars vars') :
    Statement.ofLine vars.lookup line = Statement.ofLine vars'.lookup line := by
  rw [Statement.ofLine, substitute_congr h]
  rfl

end AgreeOn

namespace Session

variable {w : World} {vars vars' : Variables} {line line' : Text}

/-- A line does the same under variables that it cannot tell apart. -/
theorem run_execute_congr (h : AgreeOn line vars vars') :
    (execute w vars line).run = (execute w vars' line).run := by
  have hsame := h.ofLine_eq
  cases hline : Statement.ofLine vars.lookup line with
  | none => rw [execute_of_none hline, execute_of_none (hsame ▸ hline)]
  | some s =>
      cases s with
      | assignment name value =>
          rw [execute_of_assignment hline, execute_of_assignment (hsame ▸ hline)]
      | pipeline p =>
          rw [execute_of_pipeline hline, execute_of_pipeline (hsame ▸ hline)]
          rfl

/-- **Non-interference**: a line that is run does the same under variables that it cannot tell
apart. -/
theorem run_runLine_congr (h : AgreeOn line vars vars') :
    (runLine w vars line).run = (runLine w vars' line).run := by
  have hrun : (execute w vars line).run = (execute w vars' line).run := run_execute_congr h
  rw [run_runLine, run_runLine, Turn.events, Turn.events, Turn.outcome, Turn.outcome, hrun]

end Session

/-! ## Writes -/

/-- What is found under a name stays unless the name is assigned to. -/
theorem Variables.get?_after_of_no_assignment (vars : Variables) {s : Option Statement} {name : Text}
    (h : ∀ value : Text, s ≠ some (.assignment name value)) :
    (vars.after s).get? name = vars.get? name := by
  unfold Variables.after
  split
  · next n value =>
    have hne : name ≠ n := by
      rintro rfl
      exact h value rfl
    rw [get?_set, if_neg hne]
  · rfl

/-- What is found under a name after an assignment to it does not depend on what was there. -/
theorem Variables.get?_after_of_assignment (vars vars' : Variables) {s : Option Statement}
    {name value : Text} (h : s = some (.assignment name value)) :
    (vars.after s).get? name = (vars'.after s).get? name := by
  subst h
  simp [Variables.after]

/-- Assignments to different names may change places. -/
theorem Variables.get?_after_comm (vars : Variables) {s s' : Option Statement} {name : Text}
    (h : ∀ value : Text, s = some (.assignment name value) →
      ∀ value' : Text, s' ≠ some (.assignment name value')) :
    ((vars.after s).after s').get? name = ((vars.after s').after s).get? name := by
  by_cases hs : ∃ value, s = some (.assignment name value)
  · obtain ⟨value, hvalue⟩ := hs
    rw [get?_after_of_no_assignment _ (h value hvalue),
      get?_after_of_assignment vars (vars.after s') hvalue]
  · have hno : ∀ value : Text, s ≠ some (.assignment name value) := not_exists.mp hs
    rw [get?_after_of_no_assignment (vars.after s') hno]
    -- whether the other line assigns to the name or not, the first one left it alone
    by_cases hs' : ∃ value', s' = some (.assignment name value')
    · obtain ⟨value', hvalue'⟩ := hs'
      exact get?_after_of_assignment (vars.after s) vars hvalue'
    · have hno' : ∀ value' : Text, s' ≠ some (.assignment name value') := not_exists.mp hs'
      rw [get?_after_of_no_assignment _ hno', get?_after_of_no_assignment _ hno,
        get?_after_of_no_assignment _ hno']

namespace Independent

variable {vars : Variables} {line line' : Text}

/-- A line does not change what an independent one reads. -/
theorem agreeOn (h : Independent vars line line') (w : World) :
    AgreeOn line' (Session.runLine w vars line).vars vars := by
  intro name hrefers
  have hno : ∀ value : Text, Statement.ofLine vars.lookup line ≠ some (.assignment name value) :=
    fun value hassigns => h.not_read name ⟨value, hassigns⟩ hrefers
  rw [Session.vars_runLine, Session.vars_execute, Variables.lookup, Variables.lookup,
    Variables.get?_after_of_no_assignment vars hno]

/-- The variables after a line and an independent one. -/
theorem vars_runLine_runLine (h : Independent vars line line') (w : World) :
    (Session.runLine w (Session.runLine w vars line).vars line').vars =
      (vars.after (Statement.ofLine vars.lookup line)).after
        (Statement.ofLine vars.lookup line') := by
  have hsame := (h.agreeOn w).ofLine_eq
  rw [Session.vars_runLine, Session.vars_execute, hsame, Session.vars_runLine,
    Session.vars_execute]

end Independent

namespace Session

/-- **Independent lines commute.**  Each of them does the same whether it is run first or second:
the same effects in the same order, so what it prints, warns about, reads and launches, and the same
status or failure.  After both, every name has the same value or none.

This rests on **non-interference**, the last part: what a line does, and what it assigns, is the
same under any two variable states that agree on the names that it refers to. -/
theorem runLine_comm (w : World) (vars : Variables) (line line' : Text)
    (h : Independent vars line line') :
    (runLine w (runLine w vars line').vars line).run = (runLine w vars line).run ∧
    (runLine w (runLine w vars line).vars line').run = (runLine w vars line').run ∧
    (∀ name, (runLine w (runLine w vars line).vars line').vars.get? name =
      (runLine w (runLine w vars line').vars line).vars.get? name) ∧
    ∀ (l : Text) (vars₁ vars₂ : Variables), AgreeOn l vars₁ vars₂ →
      (runLine w vars₁ l).run = (runLine w vars₂ l).run ∧
      ∀ name value, Statement.ofLine vars₁.lookup l = some (.assignment name value) ↔
        Statement.ofLine vars₂.lookup l = some (.assignment name value) := by
  refine ⟨run_runLine_congr (h.symm.agreeOn w), run_runLine_congr (h.agreeOn w), fun name => ?_,
    fun l vars₁ vars₂ hagree => ⟨run_runLine_congr hagree, fun name value => ?_⟩⟩
  · rw [h.vars_runLine_runLine w, h.symm.vars_runLine_runLine w]
    exact vars.get?_after_comm fun value hassigns value' hassigns' =>
      h.not_both name ⟨value, hassigns⟩ ⟨value', hassigns'⟩
  · rw [hagree.ofLine_eq]

/-- Two assignments of the value of a third variable. -/
theorem runLine_comm_assignments :
    let w : World := ⟨fun _ => none, fun _ _ _ => .interrupted, ['/']⟩
    let vars := Variables.ofList [(['b'], ['x'])]
    let line : Text := ['a', '=', '$', 'b']
    let line' : Text := ['c', '=', '$', 'b']
    Independent vars line line' ∧
      (runLine w (runLine w vars line).vars line').run = (runLine w vars line').run ∧
      ∀ name, (runLine w (runLine w vars line').vars line).vars.get? name =
        ((vars.set ['a'] ['x']).set ['c'] ['x']).get? name := by
  intro w vars line line'
  have hpieces : ∀ c : Char, c ≠ '$' → Piece.ofLine [c, '=', '$', 'b'] =
      [.literal c, .literal '=', .reference ['b'] false] := by
    intro c hc
    have hb : ReferenceAt ['b'] false [] ['$', 'b'] := ⟨by decide, rfl, fun _ => endsName_nil⟩
    rw [Piece.ofLine_cons_of_ne hc, Piece.ofLine_cons_of_ne (by decide),
      Piece.ofLine_of_referenceAt hb, Piece.ofLine]
  have hreads : ∀ c name, c ≠ '$' → RefersTo [c, '=', '$', 'b'] name → name = ['b'] := by
    intro c name hc hrefers
    have hmem := mem_references_iff.mpr hrefers
    rw [references, hpieces c hc] at hmem
    exact List.mem_singleton.mp hmem
  have hline : Statement.ofLine vars.lookup line = some (.assignment ['a'] ['x']) := by
    rw [Statement.ofLine, substitute, hpieces 'a' (by decide)]
    decide
  have hline' : Statement.ofLine vars.lookup line' = some (.assignment ['c'] ['x']) := by
    rw [Statement.ofLine, substitute, hpieces 'c' (by decide)]
    decide
  have hwrites : ∀ name, AssignsTo vars line name → name = ['a'] := by
    rintro name ⟨value, hassigns⟩
    rw [hline] at hassigns
    cases hassigns
    rfl
  have hwrites' : ∀ name, AssignsTo vars line' name → name = ['c'] := by
    rintro name ⟨value, hassigns⟩
    rw [hline'] at hassigns
    cases hassigns
    rfl
  have hindependent : Independent vars line line' := by
    refine ⟨fun name hw hr => ?_, fun name hw hr => ?_, fun name hw hw' => ?_⟩
    · exact absurd ((hwrites name hw).symm.trans (hreads 'c' name (by decide) hr)) (by decide)
    · exact absurd ((hwrites' name hw).symm.trans (hreads 'a' name (by decide) hr)) (by decide)
    · exact absurd ((hwrites name hw).symm.trans (hwrites' name hw')) (by decide)
  have hcomm := runLine_comm w vars line line' hindependent
  refine ⟨hindependent, hcomm.2.1, fun name => ?_⟩
  rw [← hcomm.2.2.1 name, hindependent.vars_runLine_runLine w, hline, hline']
  rfl

end Session

end TextShell
