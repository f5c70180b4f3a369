import TextShell.Proofs.Line.Reference
import TextShell.Statement

/-!
# Which statement stages make

One stage of one word of the form `name=value` is an assignment, and all other stages are a pipeline
with one command for each of them.  How many words the stages have can be read off the statement
again (`Statement.wordCounts`), whichever of the two it is.
-/

namespace TextShell

/-- A word assigns a value to a name exactly if it is the name, an equals sign and the value. -/
theorem assignment?_eq_some_iff {word name value : Text} :
    assignment? word = some (name, value) ↔ IsName name ∧ word = name ++ '=' :: value := by
  constructor
  · intro h
    have happ := splitName_append word
    unfold assignment? at h
    split at h
    · cases h
    · next hne heq =>
      simp only [Option.some.injEq, Prod.mk.injEq] at h
      obtain ⟨rfl, rfl⟩ := h
      rw [heq] at happ
      exact ⟨(isName_and_endsName_of_splitName_eq heq hne).1, happ.symm⟩
    · cases h
  · rintro ⟨hname, rfl⟩
    have hends : EndsName ('=' :: value) := endsName_cons.mpr (by decide)
    unfold assignment?
    rw [splitName_append_of_endsName hname hends]
    split
    · next heq => exact absurd (Prod.mk.inj heq).1 hname.ne_nil
    · next heq =>
      simp only [Prod.mk.injEq, List.cons.injEq, true_and] at heq
      rw [heq.1, heq.2]
    · next hno => exact absurd rfl (hno name value)

/-- The words of a stage select a command by the first, with the others as its arguments. -/
theorem Command.ofStage_eq (words : List Text) :
    Command.ofStage words = Command.ofWords (words.headD []) words.tail := by
  cases words with
  | nil => rfl
  | cons name args => rfl

@[simp] theorem Command.args_ofWords (name : Text) (args : List Text) :
    (Command.ofWords name args).args = args := by
  unfold Command.ofWords
  split <;> rfl

namespace Statement

/-- A single word of the form `name=value` is an assignment. -/
theorem ofStages_assignment {name : Text} (hname : IsName name) (value : Text) :
    ofStages [[name ++ '=' :: value]] = some (.assignment name value) := by
  simp only [ofStages, assignment?_eq_some_iff.mpr ⟨hname, rfl⟩]

/-- Stages that are not a single word of the form `name=value` are a pipeline of their commands. -/
theorem exists_ofStages_eq_pipeline {stages : List (List Text)} (hne : stages ≠ [])
    (h : ∀ name value : Text, IsName name → stages ≠ [[name ++ '=' :: value]]) :
    ∃ p : Pipeline, ofStages stages = some (.pipeline p) ∧
      p.toList = stages.map Command.ofStage := by
  unfold ofStages
  split
  · exact absurd rfl hne
  · next word =>
    split
    · next name value heq =>
      obtain ⟨hname, rfl⟩ := assignment?_eq_some_iff.mp heq
      exact absurd rfl (h name value hname)
    · exact ⟨_, rfl, rfl⟩
  · exact ⟨_, rfl, rfl⟩

/-- Stages are none, a single word of the form `name=value` or a pipeline of commands. -/
theorem ofStages_cases (stages : List (List Text)) :
    stages = [] ∨ (∃ name value : Text, IsName name ∧ stages = [[name ++ '=' :: value]]) ∨
      ∃ p : Pipeline, ofStages stages = some (.pipeline p) ∧
        p.toList = stages.map Command.ofStage := by
  by_cases hassign : ∃ name value : Text, IsName name ∧ stages = [[name ++ '=' :: value]]
  · exact Or.inr (Or.inl hassign)
  · by_cases hne : stages = []
    · exact Or.inl hne
    · exact Or.inr (Or.inr (exists_ofStages_eq_pipeline hne fun name value hname heq =>
        hassign ⟨name, value, hname, heq⟩))

/-- Only a single word of the form `name=value` is an assignment. -/
theorem ofStages_eq_assignment_iff {stages : List (List Text)} {name value : Text} :
    ofStages stages = some (.assignment name value) ↔
      IsName name ∧ stages = [[name ++ '=' :: value]] := by
  constructor
  · intro h
    rcases ofStages_cases stages with rfl | ⟨n, v, hn, rfl⟩ | ⟨p, hp, -⟩
    · cases h
    · rw [ofStages_assignment hn] at h
      obtain ⟨rfl, rfl⟩ := Statement.assignment.inj (Option.some.inj h)
      exact ⟨hn, rfl⟩
    · rw [hp] at h
      cases h
  · rintro ⟨hname, rfl⟩
    exact ofStages_assignment hname value

/-- How many words every stage of a statement has: an assignment is a single word, and a command has
one word more than arguments. -/
def wordCounts : Option Statement → List Nat
  | none => []
  | some (.assignment _ _) => [1]
  | some (.pipeline p) => p.toList.map fun c => c.args.length + 1

/-- The statement that stages make has as many words in every stage as they. -/
theorem wordCounts_ofStages {stages : List (List Text)} (h : ∀ words ∈ stages, words ≠ []) :
    wordCounts (ofStages stages) = stages.map List.length := by
  rcases ofStages_cases stages with rfl | ⟨name, value, hname, rfl⟩ | ⟨p, hp, hlist⟩
  · rfl
  · rw [ofStages_assignment hname]
    rfl
  · rw [hp, wordCounts, hlist, List.map_map]
    refine List.map_congr_left fun words hwords => ?_
    rw [Function.comp_apply, Command.ofStage_eq, Command.args_ofWords, List.length_tail]
    have hpos := List.length_pos_iff.mpr (h words hwords)
    omega

end Statement

/-- A stage without words is dropped. -/
theorem ne_nil_of_mem_stages {line : Text} {words : List Text} (h : words ∈ stages line) :
    words ≠ [] := by
  have hkept := (List.mem_filter.mp h).2
  rintro rfl
  cases hkept

end TextShell
