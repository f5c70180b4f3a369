import Mathlib.Data.List.Forall2
import TextShell.Proofs.Session.Line

/-!
# What a line says

Which statement a line is depends on nothing but the stages that are left once the variables are
replaced and the quotes taken away: none of them makes no statement, a single word of the form
`name=value` an assignment, and everything else a pipeline with one command for each stage.  The
command of a stage is found by its first word (`Command.SelectedBy`), which is there because stages
without a word have been dropped (`ne_nil_of_mem_stages`).

The same stages decide whether the line ends the session, and a line that does has no effect but that
it is logged.

## Main Definitions

* `Command.SelectedBy` — the command that the words of a stage select
-/

namespace TextShell

namespace Command

/-- **The command that the words of a stage select**: a built-in one if the first word is exactly
its name, and a program otherwise, with the other words as arguments. -/
inductive SelectedBy : List Text → Command → Prop
  | builtin (b : Builtin) (args : List Text) : SelectedBy (b.name :: args) (.builtin b args)
  | external {program : Text} (args : List Text) (h : ∀ b : Builtin, program ≠ b.name) :
      SelectedBy (program :: args) (.external program args)

/-- A stage is a program if its first word is the name of no built-in command. -/
theorem ofStage_cons_of_ne {program : Text} (h : ∀ b : Builtin, program ≠ b.name)
    (args : List Text) : ofStage (program :: args) = .external program args := by
  rw [ofStage, ofWords]
  cases hb : Builtin.ofName? program with
  | none => rfl
  | some b => exact absurd (Builtin.ofName?_eq_some_iff.mp hb) (h b)

theorem SelectedBy.ofStage_eq {words : List Text} {c : Command} (h : SelectedBy words c) :
    ofStage words = c := by
  cases h with
  | builtin b args => exact (ofStage_eq_builtin_iff (List.cons_ne_nil _ _)).mpr rfl
  | external args h => exact ofStage_cons_of_ne h args

/-- Every stage with a word selects a command. -/
theorem selectedBy_ofStage {words : List Text} (hne : words ≠ []) :
    SelectedBy words (ofStage words) := by
  obtain ⟨name, args, rfl⟩ := List.exists_cons_of_ne_nil hne
  by_cases h : ∃ b : Builtin, name = b.name
  · obtain ⟨b, rfl⟩ := h
    rw [(SelectedBy.builtin b args).ofStage_eq]
    exact .builtin b args
  · rw [ofStage_cons_of_ne (not_exists.mp h)]
    exact .external args (not_exists.mp h)

/-- Stages select one command each. -/
theorem forall₂_selectedBy_map_ofStage {stages : List (List Text)}
    (h : ∀ words ∈ stages, words ≠ []) :
    List.Forall₂ SelectedBy stages (stages.map ofStage) := by
  rw [List.forall₂_map_right_iff, List.forall₂_same]
  exact fun words hwords => selectedBy_ofStage (h words hwords)

end Command

namespace Statement

variable {lookup : Text → Text} {line : Text}

/-- A line is no statement if it has no stage. -/
theorem ofLine_eq_none_iff : ofLine lookup line = none ↔ stages (substitute lookup line) = [] := by
  rw [ofLine]
  rcases ofStages_cases (stages (substitute lookup line)) with h | ⟨name, value, hname, h⟩ |
    ⟨p, hp, hlist⟩
  · simp [h, ofStages]
  · simp [h, ofStages_assignment hname]
  · rw [hp]
    constructor
    · intro h
      cases h
    · intro hnil
      rw [hnil] at hlist
      cases hlist

end Statement

namespace Session

variable {w : World} {vars : Variables} {line : Text}

/-- A line that ends the session is logged, and that is all it does. -/
theorem execute_of_exit {args : List Text}
    (h : stages (substitute vars.lookup line) = [Builtin.exit.name :: args]) :
    execute w vars line =
      ⟨⟨[.logged (.parsed (.pipeline ⟨.builtin .exit args, []⟩)),
        .logged (.running (.builtin .exit args))], .ok .exit⟩, vars⟩ := by
  have hexit : (execute w vars line).outcome = .ok .exit :=
    outcome_execute_eq_exit_iff.mpr ⟨args, h⟩
  obtain ⟨p, hp⟩ := exists_pipeline_of_outcome_ne (by rw [hexit]; nofun)
  -- of the three kinds of stages only a pipeline can be this statement
  have hlist : p.toList = [.builtin .exit args] := by
    rw [Statement.ofLine, h] at hp
    rcases Statement.ofStages_cases [Builtin.exit.name :: args] with hnil | ⟨name, value, hname,
      hassign⟩ | ⟨p', hp', hlist⟩
    · cases hnil
    · rw [hassign, Statement.ofStages_assignment hname] at hp
      cases hp
    · rw [hp'] at hp
      obtain rfl : p' = p := Statement.pipeline.inj (Option.some.inj hp)
      rw [hlist, List.map_singleton, (Command.SelectedBy.builtin .exit args).ofStage_eq]
  obtain ⟨head, tail⟩ := p
  obtain ⟨rfl, rfl⟩ := List.cons.inj hlist
  rw [execute_of_pipeline hp]
  rfl

/-- **What a line says** is decided by its stages, each of which has a word.  Without a stage it says
nothing, a single word that is a name, an equals sign and anything else assigns that value to that
name, and all other stages are a pipeline of one command each, in order.

So a line ends the session exactly if its only stage begins with the word `exit`, and then nothing
is read, launched, printed or assigned. -/
theorem says_by_stages (w : World) (vars : Variables) (line : Text) :
    let groups := stages (substitute vars.lookup line)
    let statement := Statement.ofLine vars.lookup line
    (∀ words ∈ groups, words ≠ []) ∧
    (statement = none ↔ groups = []) ∧
    (∀ name value, statement = some (.assignment name value) ↔
      IsName name ∧ groups = [[name ++ '=' :: value]]) ∧
    (groups ≠ [] → (∀ name value : Text, IsName name → groups ≠ [[name ++ '=' :: value]]) →
      ∃ p : Pipeline, statement = some (.pipeline p) ∧
        List.Forall₂ Command.SelectedBy groups p.toList) ∧
    ((execute w vars line).outcome = .ok .exit ↔
      ∃ args, groups = [Builtin.exit.name :: args]) ∧
    (∀ args, groups = [Builtin.exit.name :: args] →
      execute w vars line =
        ⟨⟨[.logged (.parsed (.pipeline ⟨.builtin .exit args, []⟩)),
          .logged (.running (.builtin .exit args))], .ok .exit⟩, vars⟩) := by
  intro groups statement
  have hwords : ∀ words ∈ groups, words ≠ [] := fun words => ne_nil_of_mem_stages
  refine ⟨hwords, Statement.ofLine_eq_none_iff,
    fun name value => Statement.ofStages_eq_assignment_iff, fun hne hassign => ?_,
    outcome_execute_eq_exit_iff, fun args => execute_of_exit⟩
  obtain ⟨p, hp, hlist⟩ := Statement.exists_ofStages_eq_pipeline hne hassign
  refine ⟨p, hp, ?_⟩
  rw [hlist]
  exact Command.forall₂_selectedBy_map_ofStage hwords

/-- The value of a variable that ends the session: the bar in it cuts off an empty stage. -/
theorem says_by_stages_exit_in_value :
    let w : World := ⟨fun _ => none, fun _ _ _ => .interrupted, ['/']⟩
    let vars := Variables.ofList [(['v'], ['e', 'x', 'i', 't', ' ', '|'])]
    let line : Text := ['$', 'v']
    stages (substitute vars.lookup line) = [Builtin.exit.name :: []] ∧
      (execute w vars line).outcome = .ok .exit ∧ (execute w vars line).vars = vars ∧
      Statement.ofLine vars.lookup line ≠ none := by
  intro w vars line
  have hstages : stages (substitute vars.lookup line) = [Builtin.exit.name :: []] := by
    have hline : substitute vars.lookup line = vars.lookup ['v'] := by
      have hvalue : substitute vars.lookup ([] ++ ((Piece.reference ['v'] false).source ++ [])) = _ :=
        substitute_append_source_append vars.lookup (by decide) (fun _ => endsName_nil) []
      rwa [substitute_nil, List.nil_append, List.append_nil] at hvalue
    rw [hline]
    decide
  obtain ⟨-, hnone, -, -, hexit, hexecute⟩ := says_by_stages w vars line
  refine ⟨hstages, hexit.mpr ⟨[], hstages⟩, congrArg Turn.vars (hexecute [] hstages), fun h => ?_⟩
  rw [hnone.mp h] at hstages
  cases hstages

end Session

end TextShell
