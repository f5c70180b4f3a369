import TextShell.Proofs.Session.Course
import TextShell.Proofs.Session.Line
import TextShell.Proofs.Text.ScriptLines
import TextShell.Proofs.Text.Utf8.Blocks
import TextShell.Proofs.World
import TextShell.Script

/-!
# A script is its lines

A script that cannot be read, or whose bytes are not the encoding of a text, is refused as a whole:
one line is printed and nothing is executed.  Any other script is a course (`Script.course`) that
executes the statements among its lines in order and stops at the first one that fails or ends the
session.  The statements keep the numbers that their lines have among all lines (`HasStatements`).

`Script.run_refuses_or_executes_statements` puts the two together.  Decoding and cutting into lines
come before the first statement, so neither depends on what the statements do.
-/

namespace TextShell

namespace Script

/-- Statements are executed in order, up to one that fails or ends the session. -/
def course (w : World) : Course Variables (Nat × Text) where
  next vars l := (Session.execute w vars l.2).vars
  effects vars l := (Session.execute w vars l.2).events
  Stops vars l := (Session.execute w vars l.2).outcome ≠ .ok .continue

/-- **The statements of lines**, with numbers that count every line: without their outer blanks,
those are neither empty nor do they begin with a number sign. -/
structure HasStatements (lines : List Text) (numbered : List (Nat × Text)) : Prop where
  /-- The statements are in the order of the lines. -/
  ascending : numbered.Pairwise fun l l' => l.1 < l'.1
  /-- A statement is what is left of the line with its number. -/
  mem_iff : ∀ n line, (n, line) ∈ numbered ↔
    1 ≤ n ∧ ∃ raw : Text, lines[n - 1]? = some raw ∧ line = raw.trim ∧ line ≠ [] ∧
      line.head? ≠ some '#'

/-- What is printed when a script is refused. -/
def refusalEvents (path reason : Text) : List Event :=
  [.read path, .printed ("pipesh: " ++ path ++ ": " ++ reason ++ ['\n'])]

/-- What comes of a script at a statement that stops it, by the number of the statement and its
outcome: what is printed, and the exit code.  A failure that is no error of a command stays one. -/
def conclusion (n : Nat) : Except Failure Status → List Event × Except Failure Nat
  | .ok _ => ([], .ok 0)
  | .error (.shell e) =>
      ([.printed ("Error at line " ++ Text.ofNat n ++ ": " ++ e.message ++ ['\n'])], .ok 1)
  | .error f => ([], .error f)

/-! ## Statements and their numbers -/

theorem isStatement_iff {line : Text} :
    isStatement line = true ↔ line ≠ [] ∧ line.head? ≠ some '#' := by
  simp [isStatement]

/-- The lines of a script that are run are the statements of its lines. -/
theorem hasStatements_lines {t : Text} {ls : List Text} (h : HasLines t ls) :
    HasStatements ls (lines t) := by
  obtain rfl := hasLines_iff.mp h
  constructor
  · have hnumbers : ((t.scriptLines.map Text.trim).zipIdx 1).Pairwise fun l l' => l.2 < l'.2 := by
      refine List.pairwise_map.mp ?_
      rw [List.zipIdx_map_snd]
      exact List.pairwise_lt_range' 1
    rw [lines, List.pairwise_filterMap]
    refine hnumbers.imp ?_
    intro l l' hlt m hm m' hm'
    obtain ⟨-, heq⟩ := Option.ite_none_right_eq_some.mp hm
    obtain ⟨-, heq'⟩ := Option.ite_none_right_eq_some.mp hm'
    obtain rfl := Option.some.inj heq
    obtain rfl := Option.some.inj heq'
    exact hlt
  · intro n line
    rw [lines, List.mem_filterMap]
    constructor
    · rintro ⟨⟨line', n'⟩, hmem, hsome⟩
      obtain ⟨hstatement, heq⟩ := Option.ite_none_right_eq_some.mp hsome
      obtain ⟨rfl, rfl⟩ := Prod.mk.inj (Option.some.inj heq)
      obtain ⟨hle, hget⟩ := List.mk_mem_zipIdx_iff_le_and_getElem?_sub.mp hmem
      rw [List.getElem?_map] at hget
      obtain ⟨raw, hraw, rfl⟩ := Option.map_eq_some_iff.mp hget
      exact ⟨hle, raw, hraw, rfl, isStatement_iff.mp hstatement⟩
    · rintro ⟨hle, raw, hraw, rfl, hstatement⟩
      refine ⟨(raw.trim, n), List.mk_mem_zipIdx_iff_le_and_getElem?_sub.mpr ⟨hle, ?_⟩, ?_⟩
      · rw [List.getElem?_map, hraw]
        rfl
      · exact Option.ite_none_right_eq_some.mpr ⟨isStatement_iff.mpr hstatement, rfl⟩

/-- Lines have one list of statements only. -/
theorem HasStatements.unique {ls : List Text} {numbered numbered' : List (Nat × Text)}
    (h : HasStatements ls numbered) (h' : HasStatements ls numbered') : numbered = numbered' := by
  have hnodup : ∀ l : List (Nat × Text), (l.Pairwise fun a b => a.1 < b.1) → l.Nodup :=
    fun l hl => hl.imp fun {a b} hlt (heq : a = b) => Nat.lt_irrefl a.1 (heq ▸ hlt)
  have hperm : numbered.Perm numbered' := by
    rw [List.perm_ext_iff_of_nodup (hnodup _ h.ascending) (hnodup _ h'.ascending)]
    rintro ⟨n, line⟩
    rw [h.mem_iff, h'.mem_iff]
  exact hperm.eq_of_pairwise (fun _ _ _ _ hlt hgt => absurd hlt (Nat.lt_asymm hgt)) h.ascending
    h'.ascending

variable {w : World} {vars : Variables}

/-! ## Executing statements -/

/-- A statement that lets the session go on is executed before the others. -/
theorem runLines_cons_of_continue {l : Nat × Text} {rest : List (Nat × Text)}
    (h : (Session.execute w vars l.2).outcome = .ok .continue) :
    runLines w vars (l :: rest) =
      ⟨⟨(Session.execute w vars l.2).events ++
          (runLines w (Session.execute w vars l.2).vars rest).events,
        (runLines w (Session.execute w vars l.2).vars rest).outcome⟩,
        (runLines w (Session.execute w vars l.2).vars rest).vars⟩ := by
  rw [runLines]
  simp only [h]

/-- **Statements that do not stop the script** are executed in order before the others. -/
theorem runLines_append {before : List (Nat × Text)} (h : (course w).GoesOn vars before)
    (rest : List (Nat × Text)) :
    runLines w vars (before ++ rest) =
      ⟨⟨(course w).events vars before ++ (runLines w ((course w).after vars before) rest).events,
        (runLines w ((course w).after vars before) rest).outcome⟩,
        (runLines w ((course w).after vars before) rest).vars⟩ := by
  induction before generalizing vars with
  | nil => rfl
  | cons l before ih =>
      obtain ⟨hhead, htail⟩ := Course.goesOn_cons.mp h
      have hcontinue : (Session.execute w vars l.2).outcome = .ok .continue :=
        Classical.not_not.mp hhead
      have hrest := ih htail
      -- the others are run with the variables that the first one leaves
      rw [List.cons_append, runLines_cons_of_continue hcontinue]
      simp only [course] at hrest ⊢
      rw [hrest]
      simp [Course.events, Course.after, Turn.events, Turn.outcome]

/-- A failure that is no error of a command stays one. -/
theorem conclusion_of_escapes {f : Failure} (hf : f.Escapes) (n : Nat) :
    conclusion n (.error f) = ([], .error f) := by
  cases f with
  | shell e => exact absurd rfl (hf e)
  | _ => rfl

/-- A statement that stops the script is the last one.  It changes no variable. -/
theorem runLines_cons_of_stops {n : Nat} {line : Text} {rest : List (Nat × Text)}
    (h : (Session.execute w vars line).outcome ≠ .ok .continue) :
    runLines w vars ((n, line) :: rest) =
      ⟨⟨(Session.execute w vars line).events ++
          (conclusion n (Session.execute w vars line).outcome).1,
        (conclusion n (Session.execute w vars line).outcome).2⟩, vars⟩ := by
  have hvars := Session.vars_execute_of_outcome_ne h
  rw [runLines]
  split
  · next heq => exact absurd heq h
  · next heq => rw [heq, hvars]; simp [conclusion]
  · next e heq => rw [heq, hvars]; rfl
  · next f hf heq => rw [heq, hvars, conclusion_of_escapes hf, List.append_nil]

/-! ## Reading the script -/

/-- A script that cannot be opened is refused. -/
theorem load_of_failure {path : Text} {e : FileError} (hpath : holdsNull path = false)
    (h : w.entry path = .failure e) :
    load w path = ⟨refusalEvents path (refusal path e).1, .ok (.error (refusal path e).2)⟩ := by
  rw [load, World.openFile_of_not_null hpath, h]
  rfl

/-- A script whose bytes are not the encoding of a text is refused. -/
theorem exists_load_eq_of_content {path : Text} {bytes : Bytes} (hpath : holdsNull path = false)
    (h : w.entry path = .content bytes) (hbytes : ∀ t : Text, bytes ≠ Utf8.encode t) :
    ∃ reason, load w path = ⟨refusalEvents path reason, .ok (.error 1)⟩ := by
  obtain ⟨e, he⟩ := Utf8.exists_decodeStrict_eq_error hbytes
  refine ⟨e.message, ?_⟩
  rw [load, World.openFile_of_not_null hpath, h]
  simp only [bind, Run.andThen, he]
  rfl

/-- The text of any other script is read. -/
theorem load_of_encode {path : Text} {t : Text} (hpath : holdsNull path = false)
    (h : w.entry path = .content (Utf8.encode t)) :
    load w path = ⟨[.read path], .ok (.ok t)⟩ := by
  have ht : Utf8.decodeStrict (Utf8.encode t) = .ok t := Utf8.decodeStrict_eq_ok_iff.mpr rfl
  rw [load, World.openFile_of_not_null hpath, h]
  simp only [bind, Run.andThen, ht]
  rfl

/-- A file is not there if the error has the number 2. -/
theorem kind_eq_notFound_iff {e : FileError} : e.kind = .notFound ↔ e.code = 2 := by
  grind [FileError.kind]

/-- The exit code of a refusal tells whether the script is there. -/
theorem refusal_code (path : Text) (e : FileError) :
    (refusal path e).2 = if e.code = 2 then 127 else 1 := by
  unfold refusal
  by_cases h : e.code = 2
  · rw [if_pos (kind_eq_notFound_iff.mpr h), if_pos h]
    rfl
  · rw [if_neg fun hnotFound => h (kind_eq_notFound_iff.mp hnotFound), if_neg h]
    split <;> rfl

theorem run_of_load_error {path : Text} {events : List Event} {code : Nat}
    (h : load w path = ⟨events, .ok (.error code)⟩) :
    run w vars path = ⟨⟨events, .ok code⟩, vars⟩ := by
  rw [run, h]
  rfl

theorem run_of_load_ok {path : Text} {events : List Event} {t : Text}
    (h : load w path = ⟨events, .ok (.ok t)⟩) :
    run w vars path =
      ⟨⟨events ++ (runLines w vars (lines t)).events, (runLines w vars (lines t)).outcome⟩,
        (runLines w vars (lines t)).vars⟩ := by
  rw [run, h]

/-- A script whose statements all let the session go on. -/
theorem run_of_goesOn {path t : Text} (hpath : holdsNull path = false)
    (h : w.entry path = .content (Utf8.encode t)) (hgoes : (course w).GoesOn vars (lines t)) :
    run w vars path =
      ⟨⟨.read path :: (course w).events vars (lines t), .ok 0⟩,
        (course w).after vars (lines t)⟩ := by
  have hrun := runLines_append hgoes []
  rw [List.append_nil] at hrun
  rw [run_of_load_ok (load_of_encode hpath h), hrun]
  simp [runLines, Turn.keep, Turn.events, Turn.outcome, pure, Run.done]

/-- A script with a statement that stops it. -/
theorem run_of_stops {path t line : Text} {n : Nat} {before rest : List (Nat × Text)}
    (hpath : holdsNull path = false) (h : w.entry path = .content (Utf8.encode t))
    (hsplit : lines t = before ++ (n, line) :: rest) (hgoes : (course w).GoesOn vars before)
    (hstops : (Session.execute w ((course w).after vars before) line).outcome ≠ .ok .continue) :
    run w vars path =
      ⟨⟨.read path :: ((course w).events vars before ++
            (Session.execute w ((course w).after vars before) line).events ++
            (conclusion n (Session.execute w ((course w).after vars before) line).outcome).1),
          (conclusion n (Session.execute w ((course w).after vars before) line).outcome).2⟩,
        (course w).after vars before⟩ := by
  rw [run_of_load_ok (load_of_encode hpath h), hsplit, runLines_append hgoes,
    runLines_cons_of_stops hstops]
  simp [Turn.events, Turn.outcome]

/-- **A script is its lines.**  A script that is not there, cannot be opened or is not the encoding
of a text is refused: one line is printed, nothing is executed and no variable changes.  Otherwise
its statements are executed in order.  If all of them let the session go on, the exit code is zero;
if not, the first one that does not is the last one that is executed, and what comes of the script
is the `conclusion` from its number and outcome. -/
theorem run_refuses_or_executes_statements (w : World) (vars : Variables) {path : Text}
    (hpath : holdsNull path = false) :
    (∀ e, w.entry path = .failure e →
      run w vars path =
        ⟨⟨refusalEvents path (refusal path e).1, .ok (if e.code = 2 then 127 else 1)⟩, vars⟩) ∧
    (∀ bytes, w.entry path = .content bytes → (∀ t : Text, bytes ≠ Utf8.encode t) →
      ∃ reason, run w vars path = ⟨⟨refusalEvents path reason, .ok 1⟩, vars⟩) ∧
    (∀ t ls, w.entry path = .content (Utf8.encode t) → HasLines t ls →
      ∃ numbered, (∀ l, HasStatements ls l ↔ l = numbered) ∧
        ((course w).GoesOn vars numbered ∧
          run w vars path =
            ⟨⟨.read path :: (course w).events vars numbered, .ok 0⟩,
              (course w).after vars numbered⟩ ∨
        ∃ before n line rest, numbered = before ++ (n, line) :: rest ∧
          (course w).GoesOn vars before ∧
          let stopped := Session.execute w ((course w).after vars before) line
          stopped.outcome ≠ .ok .continue ∧
          run w vars path =
            ⟨⟨.read path :: ((course w).events vars before ++ stopped.events ++
                (conclusion n stopped.outcome).1),
              (conclusion n stopped.outcome).2⟩, (course w).after vars before⟩)) := by
  refine ⟨fun e he => ?_, fun bytes hcontent hbytes => ?_, fun t ls hcontent hlines => ?_⟩
  · rw [← refusal_code path e]
    exact run_of_load_error (load_of_failure hpath he)
  · obtain ⟨reason, hload⟩ := exists_load_eq_of_content hpath hcontent hbytes
    exact ⟨reason, run_of_load_error hload⟩
  · have hstatements := hasStatements_lines hlines
    refine ⟨lines t, fun l => ⟨fun hl => hl.unique hstatements, fun hl => hl ▸ hstatements⟩, ?_⟩
    rcases (course w).goesOn_or_exists_stops vars (lines t) with
      hgoes | ⟨before, ⟨n, line⟩, rest, hsplit, hgoes, hstops⟩
    · exact Or.inl ⟨hgoes, run_of_goesOn hpath hcontent hgoes⟩
    · exact Or.inr ⟨before, n, line, rest, hsplit, hgoes, hstops,
        run_of_stops hpath hcontent hsplit hgoes hstops⟩

/-- An unknown program in the third line, after a comment and a blank line. -/
theorem run_refuses_or_executes_statements_third_line :
    let program : Text := ['f', 'o', 'o']
    let text : Text := ['#', '\n', '\n'] ++ program ++ ['\n', 'p', 'w', 'd']
    let w : World :=
      ⟨fun _ => some (.content (Utf8.encode text)), fun _ _ _ => .refused [], ['/']⟩
    holdsNull ['s'] = false ∧
      ∃ events, run w .empty ['s'] =
        ⟨⟨events ++ [.printed "Error at line 3: foo: command not found\n"], .ok 1⟩, .empty⟩ := by
  intro program text w
  have hpath : holdsNull ['s'] = false := by decide
  obtain ⟨numbered, hnumbered, hrun⟩ :=
    (run_refuses_or_executes_statements w .empty hpath).2.2 text _ rfl (hasLines_scriptLines text)
  have hlines : numbered = [(3, program), (4, ['p', 'w', 'd'])] :=
    ((hnumbered _).mp (hasStatements_lines (hasLines_scriptLines text))).symm.trans (by decide)
  have hfails : (Session.execute w .empty program).outcome =
      .error (.shell (.commandNotFound program)) := by
    have hline : substitute Variables.empty.lookup program = program := by
      simp [program, substitute, Piece.ofLine, Piece.value]
    have hofLine : Statement.ofLine Variables.empty.lookup program =
        some (.pipeline ⟨.external program [], []⟩) := by
      rw [Statement.ofLine, hline]
      decide
    rw [Session.outcome_execute_eq_error_iff_of_pipeline hofLine]
    rfl
  have hstops : (course w).Stops .empty (3, program) := by
    show (Session.execute w .empty program).outcome ≠ .ok .continue
    rw [hfails]
    intro heq
    cases heq
  subst hlines
  refine ⟨hpath, ?_⟩
  rcases hrun with ⟨hgoes, -⟩ | ⟨before, n, line, rest, hsplit, hgoes, -, hrun⟩
  · exact absurd hstops (hgoes [] _ _ rfl)
  · cases before with
    | nil =>
        obtain ⟨heq, -⟩ := List.cons.inj hsplit
        obtain ⟨rfl, rfl⟩ := Prod.mk.inj heq
        refine ⟨.read ['s'] :: (Session.execute w .empty program).events, hrun.trans ?_⟩
        show Turn.mk ⟨_, (conclusion 3 (Session.execute w .empty program).outcome).2⟩ _ = _
        rw [show (course w).after .empty [] = .empty from rfl, hfails]
        rfl
    | cons l before =>
        obtain ⟨rfl, -⟩ := List.cons.inj hsplit
        exact absurd hstops (hgoes [] _ _ rfl)

end Script

end TextShell
