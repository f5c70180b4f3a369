import TextShell.Execution

/-!
# Files and programs

A path with a null character is refused before anything is looked up.  Under every other path there
is a text or an error, and looking there is the only effect.  A program is not launched either if a
null character is in its name or in an argument.
-/

namespace TextShell

namespace World

variable {w : World} {path : Text}

/-- The file under a path holds a text, whatever its bytes are. -/
def Reads (w : World) (path text : Text) : Prop :=
  holdsNull path = false ∧ ∃ bytes, w.entry path = .content bytes ∧ text = Utf8.decodeLossy bytes

/-- The file under a path cannot be opened. -/
def Refuses (w : World) (path : Text) (e : FileError) : Prop :=
  holdsNull path = false ∧ w.entry path = .failure e

/-- A path is refused, or there is a text or an error. -/
theorem null_or_reads_or_refuses (w : World) (path : Text) :
    holdsNull path = true ∨ (∃ text, w.Reads path text) ∨ ∃ e, w.Refuses path e := by
  cases hpath : holdsNull path with
  | true => exact Or.inl rfl
  | false =>
      cases hentry : w.entry path with
      | content bytes => exact Or.inr (Or.inl ⟨_, hpath, bytes, hentry, rfl⟩)
      | failure e => exact Or.inr (Or.inr ⟨e, hpath, hentry⟩)

theorem Reads.unique {text text' : Text} (h : w.Reads path text) (h' : w.Reads path text') :
    text = text' := by
  obtain ⟨-, bytes, hentry, rfl⟩ := h
  obtain ⟨-, bytes', hentry', rfl⟩ := h'
  rw [hentry] at hentry'
  rw [FileEntry.content.inj hentry']

theorem Refuses.unique {e e' : FileError} (h : w.Refuses path e) (h' : w.Refuses path e') :
    e = e' :=
  FileEntry.failure.inj (h.2.symm.trans h'.2)

theorem Refuses.not_reads {e : FileError} {text : Text} (h : w.Refuses path e) :
    ¬ w.Reads path text := by
  rintro ⟨-, bytes, hentry, -⟩
  rw [h.2] at hentry
  cases hentry

theorem openFile_of_null (hpath : holdsNull path = true) :
    w.openFile path = Run.fail .nullInPath := by
  rw [openFile, if_pos hpath]

/-- A file is looked up under every other path. -/
theorem openFile_of_not_null (hpath : holdsNull path = false) :
    w.openFile path = ⟨[.read path], .ok (w.entry path)⟩ := by
  rw [openFile, hpath]
  rfl

theorem readText_of_null (hpath : holdsNull path = true) :
    w.readText path = Run.fail .nullInPath := by
  rw [readText, openFile_of_null hpath, Run.fail_bind]

/-- The text of a file is read. -/
theorem Reads.readText_eq {text : Text} (h : w.Reads path text) :
    w.readText path = ⟨[.read path], .ok (.ok text)⟩ := by
  obtain ⟨hpath, bytes, hentry, rfl⟩ := h
  rw [readText, openFile_of_not_null hpath, hentry]
  rfl

/-- The error of a file is found. -/
theorem Refuses.readText_eq {e : FileError} (h : w.Refuses path e) :
    w.readText path = ⟨[.read path], .ok (.error e)⟩ := by
  obtain ⟨hpath, hentry⟩ := h
  rw [readText, openFile_of_not_null hpath, hentry]
  rfl

/-- A launch fails only if the user interrupts it, which takes a program that is launched at all. -/
theorem outcome_launch_eq_error_iff {program : Text} {args : List Text} {input : Text}
    {f : Failure} :
    (w.launch program args input).outcome = .error f ↔
      f = .interrupted ∧ (∀ t ∈ program :: args, holdsNull t = false) ∧
        w.program program args (Utf8.encode input) = .interrupted := by
  have hnull : (∀ t ∈ program :: args, holdsNull t = false) ↔
      (program :: args).any holdsNull = false := by
    simp
  rw [hnull, launch]
  cases (program :: args).any holdsNull with
  | true => simp [Run.log, pure, Run.done]
  | false =>
      cases w.program program args (Utf8.encode input) with
      | finished r => simp [Run.log, pure, Run.done]
      | refused reason => simp [Run.log, pure, Run.done]
      | interrupted => simp [Run.log, Run.fail, eq_comm]

end World

end TextShell
