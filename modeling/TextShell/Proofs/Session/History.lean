import TextShell.Proofs.Script
import TextShell.Proofs.Line.Reference

/-!
# The variables are the history of assignments

Whatever happens to a session that begins without variables, be it lines, scripts or changes of the
world, its variables are given by the lines that were executed: a name has the value of the last
line that was an assignment to it, under the variables that this line met, and no other name has
one.

The lines that are executed hand the variables on from one to the next (`Chain`).  This is shown for
every step of a session and with it for all steps together (`chain_history`).  A chain determines
its last variables (`Chain.get?_eq_some_iff`), and since every beginning of a chain is one, it
determines those in between as well.

A name that an assignment accepts is one that a reference may hold.  So whatever is stored can be
referred to, with and without braces.
-/

namespace TextShell

/-- Something that happens to a session. -/
inductive Step where
  /-- A line is executed; an error is not taken up. -/
  | execute (line : Text)
  /-- A line is run, and its error is reported. -/
  | runLine (line : Text)
  /-- A script is run. -/
  | script (path : Text)
  /-- Files, programs or the working directory change. -/
  | change (w : World)

/-- A session in its world. -/
structure Standing where
  world : World
  vars : Variables

/-- A line that was executed. -/
structure Executed where
  /-- The variables that the line met. -/
  vars : Variables
  line : Text

namespace Executed

/-- What the line says under the variables that it met. -/
def statement (x : Executed) : Option Statement :=
  Statement.ofLine x.vars.lookup x.line

/-- The line assigns a value to a name. -/
def Assigns (x : Executed) (name value : Text) : Prop :=
  x.statement = some (.assignment name value)

end Executed

/-- The lines among `lines` that are executed if they are executed in order up to the first one that
fails or ends the session. -/
def executed (w : World) (vars : Variables) : List Text → List Executed
  | [] => []
  | line :: lines =>
      ⟨vars, line⟩ ::
        match (Session.execute w vars line).outcome with
        | .ok .continue => executed w (Session.execute w vars line).vars lines
        | _ => []

namespace Standing

/-- The session after a step. -/
def step (s : Standing) : Step → Standing
  | .execute line => { s with vars := (Session.execute s.world s.vars line).vars }
  | .runLine line => { s with vars := (Session.runLine s.world s.vars line).vars }
  | .script path => { s with vars := (Script.run s.world s.vars path).vars }
  | .change w => { s with world := w }

/-- The lines that are executed in a step. -/
def executes (s : Standing) : Step → List Executed
  | .execute line => [⟨s.vars, line⟩]
  | .runLine line => [⟨s.vars, line⟩]
  | .script path =>
      match (Script.load s.world path).outcome with
      | .ok (.ok text) => executed s.world s.vars ((Script.lines text).map Prod.snd)
      | _ => []
  | .change _ => []

/-- The session after steps. -/
def steps (s : Standing) (steps : List Step) : Standing :=
  steps.foldl step s

/-- The lines that are executed in steps, in order. -/
def history (s : Standing) : List Step → List Executed
  | [] => []
  | a :: as => s.executes a ++ (s.step a).history as

end Standing

/-- Executed lines hand the variables on, from the first ones to the last ones. -/
inductive Chain : Variables → List Executed → Variables → Prop
  | nil (vars : Variables) : Chain vars [] vars
  | cons {x : Executed} {h : List Executed} {vars : Variables} :
      Chain (x.vars.after x.statement) h vars → Chain x.vars (x :: h) vars

/-- No executed line assigns to a name. -/
def Unassigned (h : List Executed) (name : Text) : Prop :=
  ∀ x ∈ h, ∀ value : Text, ¬ x.Assigns name value

/-- The last executed line that assigns to a name gives it a value. -/
def LastAssigned (h : List Executed) (name value : Text) : Prop :=
  ∃ earlier x later, h = earlier ++ x :: later ∧ x.Assigns name value ∧ Unassigned later name

/-! ## The last assignment -/

theorem unassigned_cons {x : Executed} {h : List Executed} {name : Text} :
    Unassigned (x :: h) name ↔ (∀ value : Text, ¬ x.Assigns name value) ∧ Unassigned h name :=
  List.forall_mem_cons

theorem not_lastAssigned_nil (name value : Text) : ¬ LastAssigned [] name value := by
  rintro ⟨earlier, x, later, h, -⟩
  exact absurd h.symm (by simp)

/-- The last assignment is the last one among the later lines, or the first line if there is
none. -/
theorem lastAssigned_cons {x : Executed} {h : List Executed} {name value : Text} :
    LastAssigned (x :: h) name value ↔
      LastAssigned h name value ∨ x.Assigns name value ∧ Unassigned h name := by
  constructor
  · rintro ⟨earlier, y, later, heq, hy, hlater⟩
    cases earlier with
    | nil =>
        obtain ⟨rfl, rfl⟩ := List.cons.inj heq
        exact Or.inr ⟨hy, hlater⟩
    | cons z earlier =>
        obtain ⟨rfl, rfl⟩ := List.cons.inj heq
        exact Or.inl ⟨earlier, y, later, rfl, hy, hlater⟩
  · rintro (⟨earlier, y, later, rfl, hy, hlater⟩ | ⟨hx, hh⟩)
    · exact ⟨x :: earlier, y, later, rfl, hy, hlater⟩
    · exact ⟨[], x, h, rfl, hx, hh⟩

theorem unassigned_or_exists_lastAssigned (h : List Executed) (name : Text) :
    Unassigned h name ∨ ∃ value, LastAssigned h name value := by
  induction h with
  | nil => exact Or.inl nofun
  | cons x h ih =>
      rcases ih with hh | ⟨value, hlast⟩
      · by_cases hx : ∃ value, x.Assigns name value
        · obtain ⟨value, hvalue⟩ := hx
          exact Or.inr ⟨value, lastAssigned_cons.mpr (Or.inr ⟨hvalue, hh⟩)⟩
        · exact Or.inl (unassigned_cons.mpr ⟨not_exists.mp hx, hh⟩)
      · exact Or.inr ⟨value, lastAssigned_cons.mpr (Or.inl hlast)⟩

/-- A name has a last assignment if some line assigns to it. -/
theorem exists_lastAssigned_iff {h : List Executed} {name : Text} :
    (∃ value, LastAssigned h name value) ↔ ∃ x ∈ h, ∃ value, x.Assigns name value := by
  constructor
  · rintro ⟨value, earlier, x, later, rfl, hx, -⟩
    exact ⟨x, by simp, value, hx⟩
  · rintro ⟨x, hx, value, hassign⟩
    exact (unassigned_or_exists_lastAssigned h name).resolve_left fun hno =>
      hno x hx value hassign

/-! ## Chains -/

/-- What is found under a name after a line: what the line assigns to it, or what was there. -/
theorem Executed.get?_after_iff {x : Executed} {name value : Text} :
    (x.vars.after x.statement).get? name = some value ↔
      x.Assigns name value ∨ x.vars.get? name = some value ∧ ∀ v : Text, ¬ x.Assigns name v := by
  unfold Assigns
  cases x.statement with
  | none => simp [Variables.after]
  | some s =>
      cases s with
      | pipeline p => simp [Variables.after]
      | assignment n v =>
          by_cases hn : name = n
          · simp [Variables.after, hn]
          · have hn' : n ≠ name := fun heq => hn heq.symm
            simp [Variables.after, hn, hn']

/-- **A chain determines its last variables**: a name has the value that was assigned last, or its
first value if none was. -/
theorem Chain.get?_eq_some_iff {vars vars' : Variables} {h : List Executed}
    (hchain : Chain vars h vars') {name value : Text} :
    vars'.get? name = some value ↔
      LastAssigned h name value ∨ vars.get? name = some value ∧ Unassigned h name := by
  induction hchain with
  | nil vars => simp [not_lastAssigned_nil, Unassigned]
  | cons _ ih =>
      rw [ih, Executed.get?_after_iff, lastAssigned_cons, unassigned_cons, or_and_right, or_assoc,
        and_assoc]

theorem Chain.append {vars₁ vars₂ vars₃ : Variables} {h h' : List Executed}
    (hchain : Chain vars₁ h vars₂) (hchain' : Chain vars₂ h' vars₃) :
    Chain vars₁ (h ++ h') vars₃ := by
  induction hchain with
  | nil => exact hchain'
  | cons _ ih => exact Chain.cons (ih hchain')

/-- The beginning of a chain is a chain to the variables that the next line meets. -/
theorem Chain.of_append_cons {vars vars' : Variables} {earlier later : List Executed} {x : Executed}
    (hchain : Chain vars (earlier ++ x :: later) vars') : Chain vars earlier x.vars := by
  induction earlier generalizing vars with
  | nil =>
      cases hchain with
      | cons _ => exact Chain.nil x.vars
  | cons y earlier ih =>
      cases hchain with
      | cons hrest => exact Chain.cons (ih hrest)

/-- A line hands the variables on. -/
theorem chain_execute (w : World) (vars : Variables) (line : Text) :
    Chain vars [⟨vars, line⟩] (Session.execute w vars line).vars := by
  rw [Session.vars_execute]
  exact Chain.cons (x := ⟨vars, line⟩) (Chain.nil _)

theorem executed_cons_of_continue {w : World} {vars : Variables} {line : Text} {lines : List Text}
    (h : (Session.execute w vars line).outcome = .ok .continue) :
    executed w vars (line :: lines) =
      ⟨vars, line⟩ :: executed w (Session.execute w vars line).vars lines := by
  rw [executed]
  simp only [h]

theorem executed_cons_of_stops {w : World} {vars : Variables} {line : Text} {lines : List Text}
    (h : (Session.execute w vars line).outcome ≠ .ok .continue) :
    executed w vars (line :: lines) = [⟨vars, line⟩] := by
  rw [executed]
  split
  · next heq => exact absurd heq h
  · rfl

/-- The statements of a script hand the variables on. -/
theorem chain_runLines (w : World) (vars : Variables) (numbered : List (Nat × Text)) :
    Chain vars (executed w vars (numbered.map Prod.snd))
      (Script.runLines w vars numbered).vars := by
  induction numbered generalizing vars with
  | nil => exact Chain.nil vars
  | cons l rest ih =>
      have hline := chain_execute w vars l.2
      rw [List.map_cons]
      by_cases hcontinue : (Session.execute w vars l.2).outcome = .ok .continue
      · rw [Script.runLines_cons_of_continue hcontinue, executed_cons_of_continue hcontinue]
        exact hline.append (ih (Session.execute w vars l.2).vars)
      · rw [Script.runLines_cons_of_stops hcontinue, executed_cons_of_stops hcontinue]
        rwa [Session.vars_execute_of_outcome_ne hcontinue] at hline

/-- **A step hands the variables on** through the lines that it executes. -/
theorem Standing.chain_executes (s : Standing) (a : Step) :
    Chain s.vars (s.executes a) (s.step a).vars := by
  cases a with
  | execute line => exact chain_execute s.world s.vars line
  | runLine line => exact chain_execute s.world s.vars line
  | script path =>
      simp only [executes, step, Script.run]
      cases (Script.load s.world path).outcome with
      | error f => exact Chain.nil s.vars
      | ok loaded =>
          cases loaded with
          | error code => exact Chain.nil s.vars
          | ok t => exact chain_runLines s.world s.vars (Script.lines t)
  | change w => exact Chain.nil s.vars

/-- All steps together do so, too. -/
theorem Standing.chain_history (s : Standing) (as : List Step) :
    Chain s.vars (s.history as) (s.steps as).vars := by
  induction as generalizing s with
  | nil => exact Chain.nil s.vars
  | cons a as ih => exact (s.chain_executes a).append (ih (s.step a))

/-! ## What the variables remember -/

/-- A line assigns to names only. -/
theorem Executed.Assigns.isName {x : Executed} {name value : Text} (h : x.Assigns name value) :
    IsName name :=
  (Statement.ofStages_eq_assignment_iff.mp h).1

/-- **The variables are the history of assignments**, and everything that is stored can be referred
to. -/
structure Remembers (h : List Executed) (vars : Variables) : Prop where
  /-- The value of a name is the one that was assigned last. -/
  get?_iff : ∀ name value, vars.get? name = some value ↔ LastAssigned h name value
  /-- A name is stored if some line assigned to it. -/
  stored_iff : ∀ name, (∃ value, vars.get? name = some value) ↔
    ∃ x ∈ h, ∃ value, x.Assigns name value
  /-- A stored name is one that references may hold, and a reference to it, in braces or where the
  name does not go on, is replaced by the value. -/
  refers : ∀ name value, vars.get? name = some value → IsName name ∧
    ∀ (braced : Bool) (before rest : Text), (braced = false → EndsName rest) →
      substitute vars.lookup (before ++ ((Piece.reference name braced).source ++ rest)) =
        substitute vars.lookup before ++ (value ++ substitute vars.lookup rest)

/-- A chain from no variables is remembered by its last variables. -/
theorem Chain.remembers {h : List Executed} {vars : Variables} (hchain : Chain .empty h vars) :
    Remembers h vars := by
  have hget : ∀ name value, vars.get? name = some value ↔ LastAssigned h name value := by
    intro name value
    simp [hchain.get?_eq_some_iff]
  refine ⟨hget, fun name => ?_, fun name value hvalue => ?_⟩
  · rw [← exists_lastAssigned_iff]
    exact exists_congr fun value => hget name value
  · obtain ⟨earlier, x, later, -, hx, -⟩ := (hget name value).mp hvalue
    have hlookup : vars.lookup name = value := by rw [Variables.lookup, hvalue, Option.getD_some]
    refine ⟨hx.isName, fun braced before rest hends => ?_⟩
    rw [substitute_append_source_append vars.lookup hx.isName hends, hlookup]

/-- **In every state of a session** that begins without variables, the variables are the history of
the assignments among the lines executed so far.  This holds after all steps, and before every line,
be it typed or in the middle of a script.

A line that assigns to a name changes no other name; a line that is no assignment changes nothing,
and neither does one that fails. -/
theorem remembers_history (w : World) (as : List Step) :
    Remembers ((Standing.mk w .empty).history as) ((Standing.mk w .empty).steps as).vars ∧
    (∀ earlier x later, (Standing.mk w .empty).history as = earlier ++ x :: later →
      Remembers earlier x.vars) ∧
    ∀ (w' : World) (vars : Variables) (line : Text),
      (∀ name value, Statement.ofLine vars.lookup line = some (.assignment name value) →
        ∀ other, other ≠ name →
          (Session.execute w' vars line).vars.get? other = vars.get? other) ∧
      ((∀ name value, Statement.ofLine vars.lookup line ≠ some (.assignment name value)) →
        (Session.execute w' vars line).vars = vars) ∧
      (∀ f, (Session.execute w' vars line).outcome = .error f →
        (Session.execute w' vars line).vars = vars) := by
  have hchain := (Standing.mk w .empty).chain_history as
  refine ⟨hchain.remembers, fun earlier x later hsplit => ?_, fun w' vars line => ⟨?_, ?_, ?_⟩⟩
  · rw [hsplit] at hchain
    exact hchain.of_append_cons.remembers
  · intro name value hassign other hother
    rw [Session.execute_of_assignment hassign, Variables.get?_set, if_neg hother]
  · exact Session.vars_execute_of_no_assignment
  · intro f hf
    exact Session.vars_execute_of_outcome_ne (by rw [hf]; nofun)

end TextShell
