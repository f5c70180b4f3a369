import TextShell.Run

/-!
# Inputs that are handled in order

A dialogue and a script are both lists of inputs.  Each input has effects and leaves a state to the
next one, until an input stops the course.  What is said here holds of any such course: the effects
and states of a list follow from those of its parts, and a list either goes on to its end
(`Course.GoesOn`) or has a first input at which it stops.

## Main Definitions

* `Course` — effects and states of single inputs, and which inputs stop
* `Course.after`, `Course.events` — the state after inputs and their effects
* `Course.GoesOn` — no input stops
-/

namespace TextShell

/-- How inputs are handled one after the other. -/
structure Course (σ α : Type) where
  /-- The state after an input. -/
  next : σ → α → σ
  /-- The effects of an input. -/
  effects : σ → α → List Event
  /-- Nothing is handled after such an input. -/
  Stops : σ → α → Prop

namespace Course

variable {σ α : Type} (c : Course σ α)

/-- The state after inputs that are all handled. -/
def after (s : σ) (inputs : List α) : σ :=
  inputs.foldl c.next s

/-- The effects of inputs that are all handled. -/
def events (s : σ) : List α → List Event
  | [] => []
  | a :: inputs => c.effects s a ++ events (c.next s a) inputs

/-- None of some inputs stops. -/
def GoesOn (s : σ) (inputs : List α) : Prop :=
  ∀ before a rest, inputs = before ++ a :: rest → ¬ c.Stops (c.after s before) a

variable {c} {s : σ}

/-- The effects of two parts follow each other. -/
theorem events_append (before rest : List α) :
    c.events s (before ++ rest) = c.events s before ++ c.events (c.after s before) rest := by
  induction before generalizing s with
  | nil => rfl
  | cons a before ih =>
      rw [List.cons_append, events, events, ih, List.append_assoc]
      rfl

theorem goesOn_nil : c.GoesOn s [] := by
  intro before a rest h
  exact absurd h.symm (by simp)

/-- A list goes on if its first input does and the others do after it. -/
theorem goesOn_cons {a : α} {inputs : List α} :
    c.GoesOn s (a :: inputs) ↔ ¬ c.Stops s a ∧ c.GoesOn (c.next s a) inputs := by
  constructor
  · intro h
    exact ⟨h [] a inputs rfl, fun before b rest heq => h (a :: before) b rest (by rw [heq]; rfl)⟩
  · rintro ⟨hhead, htail⟩ before b rest heq
    cases before with
    | nil =>
        obtain ⟨rfl, rfl⟩ := List.cons.inj heq
        exact hhead
    | cons a' before =>
        obtain ⟨rfl, rfl⟩ := List.cons.inj heq
        exact htail before b rest rfl

/-- **A course goes on to its end or has a first input that stops it.** -/
theorem goesOn_or_exists_stops (c : Course σ α) (s : σ) (inputs : List α) :
    c.GoesOn s inputs ∨ ∃ before a rest, inputs = before ++ a :: rest ∧ c.GoesOn s before ∧
      c.Stops (c.after s before) a := by
  induction inputs generalizing s with
  | nil => exact Or.inl goesOn_nil
  | cons a inputs ih =>
      by_cases hstops : c.Stops s a
      · exact Or.inr ⟨[], a, inputs, rfl, goesOn_nil, hstops⟩
      · rcases ih (c.next s a) with hgoes | ⟨before, b, rest, rfl, hgoes, hb⟩
        · exact Or.inl (goesOn_cons.mpr ⟨hstops, hgoes⟩)
        · exact Or.inr ⟨a :: before, b, rest, rfl, goesOn_cons.mpr ⟨hstops, hgoes⟩, hb⟩

end Course

end TextShell
