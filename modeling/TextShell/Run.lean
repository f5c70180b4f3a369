import TextShell.Failure
import TextShell.Statement

/-!
# Runs

A run has effects on the world, in order, and ends with a result or a failure. What was done before a
failure stays done.

## Main Definitions

* `Record` — an entry of the diagnostic log
* `Event` — an effect
* `Run` — effects and a result
-/

namespace TextShell

/-- An entry of the diagnostic log. -/
inductive Record where
  | parsed (s : Statement)
  | assigned (name value : Text)
  | running (c : Command)
  | launching (argv : List Text)
  | exited (program : Text) (status : Int)
  | failed (e : ShellError)
  | unexpected
  deriving DecidableEq, Repr

/-- The wording of a log entry, with the part of the shell that made it in front. -/
def Record.message : Record → Text
  | .parsed s => "pipesh.parser: parsed " ++ s.shown
  | .assigned name value => "pipesh.variables: set " ++ name ++ "=" ++ value.quoted
  | .running c => "pipesh.pipeline: running " ++ c.shown
  | .launching argv => "pipesh.process: launching " ++ Text.quotedList argv
  | .exited program status =>
    "pipesh.process: " ++ program ++ " exited with status " ++ Text.ofInt status
  | .failed e => "pipesh.shell: statement failed: " ++ e.shown
  | .unexpected => "pipesh.shell: unexpected error"

/-- An effect on the world. -/
inductive Event where
  /-- A file was opened for reading, be it in vain. -/
  | read (path : Text)
  /-- A program was launched, be it in vain. -/
  | launched (argv : List Text) (input : Text)
  /-- The user was warned about a file. -/
  | warned (message : Text)
  /-- Text was written to the console. -/
  | printed (text : Text)
  /-- An entry was added to the diagnostic log. -/
  | logged (r : Record)
  deriving DecidableEq, Repr

namespace Event

/-- The path that was read. -/
def read? : Event → Option Text
  | .read path => some path
  | _ => none

/-- The launch. -/
def launched? : Event → Option (List Text × Text)
  | .launched argv input => some (argv, input)
  | _ => none

/-- The warning. -/
def warned? : Event → Option Text
  | .warned message => some message
  | _ => none

/-- The text that was printed. -/
def printed? : Event → Option Text
  | .printed text => some text
  | _ => none

/-- The log entry. -/
def logged? : Event → Option Record
  | .logged r => some r
  | _ => none

end Event

/-- Effects in order, and how they ended. -/
structure Run (α : Type) where
  /-- The effects. -/
  events : List Event
  /-- The result or the failure. -/
  outcome : Except Failure α
  deriving Repr

namespace Run

/-- A result without effects. -/
def done {α : Type} (a : α) : Run α :=
  ⟨[], .ok a⟩

/-- A run and, unless it failed, another one that takes up its result. -/
def andThen {α β : Type} (m : Run α) (f : α → Run β) : Run β :=
  match m.outcome with
  | .ok a => ⟨m.events ++ (f a).events, (f a).outcome⟩
  | .error e => ⟨m.events, .error e⟩

instance : Monad Run where
  pure := done
  bind := andThen

/-- One effect. -/
def emit (e : Event) : Run Unit :=
  ⟨[e], .ok ()⟩

/-- Effects in order. -/
def emitAll (events : List Event) : Run Unit :=
  ⟨events, .ok ()⟩

/-- A failure. -/
def fail {α : Type} (e : Failure) : Run α :=
  ⟨[], .error e⟩

/-- An error that a command reports. -/
def report {α : Type} (message : Text) : Run α :=
  fail (.shell (.execution message none))

/-- An entry of the diagnostic log. -/
def log (r : Record) : Run Unit :=
  emit (.logged r)

/-- An effect comes before those of what follows it. -/
@[simp]
theorem emit_bind {β : Type} (e : Event) (f : Unit → Run β) :
    (emit e >>= f) = ⟨e :: (f ()).events, (f ()).outcome⟩ := rfl

/-- Nothing follows a failure. -/
@[simp]
theorem fail_bind {α β : Type} (e : Failure) (f : α → Run β) : (fail e >>= f) = fail e := rfl

@[simp]
theorem pure_bind {α β : Type} (a : α) (f : α → Run β) : (pure a >>= f) = f a := by
  simp [pure, bind, done, andThen]

@[simp]
theorem bind_pure {α : Type} (m : Run α) : (m >>= pure) = m := by
  obtain ⟨events, outcome⟩ := m
  cases outcome <;> simp [pure, bind, done, andThen]

/-- What follows a success takes up its result. -/
theorem bind_of_ok {α β : Type} {m : Run α} {f : α → Run β} {a : α} (h : m.outcome = .ok a) :
    (m >>= f) = ⟨m.events ++ (f a).events, (f a).outcome⟩ := by
  obtain ⟨events, outcome⟩ := m
  cases h
  rfl

/-- What follows a failure does not happen. -/
theorem bind_of_error {α β : Type} {m : Run α} {f : α → Run β} {e : Failure}
    (h : m.outcome = .error e) : (m >>= f) = ⟨m.events, .error e⟩ := by
  obtain ⟨events, outcome⟩ := m
  cases h
  rfl

theorem bind_assoc {α β γ : Type} (m : Run α) (f : α → Run β) (g : β → Run γ) :
    (m >>= f >>= g) = (m >>= fun a => f a >>= g) := by
  obtain ⟨events, outcome⟩ := m
  cases outcome with
  | error e => rfl
  | ok a =>
    simp only [bind, andThen]
    cases (f a).outcome <;> simp

/-- Mapping changes the result alone. -/
theorem map_eq {α β : Type} (g : α → β) (m : Run α) :
    g <$> m = ⟨m.events, m.outcome.map g⟩ := by
  obtain ⟨events, outcome⟩ := m
  cases outcome <;> simp [Functor.map, andThen, done, Except.map]

/-- What follows a run fails if the run failed or it fails itself. -/
theorem outcome_bind_eq_error_iff {α β : Type} {m : Run α} {f : α → Run β} {e : Failure} :
    (m >>= f).outcome = .error e ↔
      m.outcome = .error e ∨ ∃ a, m.outcome = .ok a ∧ (f a).outcome = .error e := by
  obtain ⟨events, outcome⟩ := m
  cases outcome <;> simp [bind, andThen]

/-- What follows a run succeeds if both succeed. -/
theorem outcome_bind_eq_ok_iff {α β : Type} {m : Run α} {f : α → Run β} {b : β} :
    (m >>= f).outcome = .ok b ↔ ∃ a, m.outcome = .ok a ∧ (f a).outcome = .ok b := by
  obtain ⟨events, outcome⟩ := m
  cases outcome <;> simp [bind, andThen]

instance : LawfulMonad Run :=
  LawfulMonad.mk' (m := Run) bind_pure pure_bind bind_assoc

end Run

end TextShell
