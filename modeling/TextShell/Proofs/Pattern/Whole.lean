import TextShell.Proofs.Pattern.Moves
import TextShell.Pattern.Reader

/-!
# Reading a whole pattern

A pattern is read element by element, up to its end or to a closing bracket outside of all brackets.
Then some things are checked that can be checked only at the end (`Regex.finish_eq_ok_iff`), and
some more before the pattern is matched (`Regex.compile_eq_ok_iff`).

## Main Definitions

* `Regex.finish` — what is checked once a pattern was read
* `Regex.ofState` — the pattern that was read
-/

namespace TextShell

/-! ## The elements -/

namespace Reading

variable {s : ReadState} {t : Token} {ts : List Token}

theorem readElements_eq (n : Nat) (s : ReadState) :
    readElements (n + 1) s = (match s.source.rest.head? with
      | none => pure ()
      | some t => do
        if t = .plain ')' && (← get).brackets.isEmpty then pure ()
        else
          readElement t
          readElements n : Reading Unit) s :=
  rfl

theorem readElements_of_nil (h : s.source.rest = []) (n : Nat) :
    readElements n s = .ok ((), s) := by
  cases n with
  | zero => rfl
  | succ n =>
      rw [readElements_eq, h]
      rfl

theorem readElements_of_cons (h : s.source.rest = t :: ts) (n : Nat) :
    readElements (n + 1) s =
      (if t = .plain ')' && s.brackets.isEmpty then pure ()
        else do
          readElement t
          readElements n : Reading Unit) s := by
  rw [readElements_eq, h]
  rfl

/-- A closing bracket outside of all brackets ends the reading. -/
theorem readElements_unbalanced (h : s.source.rest = .plain ')' :: ts) (hs : s.brackets = [])
    (n : Nat) : readElements n s = .ok ((), s) := by
  cases n with
  | zero => rfl
  | succ n =>
      rw [readElements_of_cons h, hs]
      rfl

theorem readElements_succ (h : s.source.rest = t :: ts)
    (hbalanced : t = .plain ')' → s.brackets ≠ []) (n : Nat) :
    readElements (n + 1) s = (readElement t >>= fun _ => readElements n) s := by
  rw [readElements_of_cons h, if_neg]
  simpa using hbalanced

end Reading

/-! ## The end -/

namespace Regex

variable {s t u : ReadState}

/-- What is checked once a pattern was read. -/
def finish : Reading Regex := do
  let s ← get
  if let some b := s.brackets.head? then Reading.failAt b.start .unterminatedGroup
  if s.flags.ascii && s.flags.unicode then Reading.exceed .alphabets
  if !s.source.rest.isEmpty then Reading.failBack 0 .unbalanced
  match s.promises.reverse.find? fun (g, _) => s.groups.next ≤ g with
  | some (g, offset) => Reading.failAt offset (.unknownGroup g)
  | none =>
    let p := s.level.pattern
    return ⟨settleAlphabet s.flags, p, (p.width s.groups.width).least⟩

theorem readWhole_eq :
    readWhole = (do
      let start ← get
      Reading.moveTo start.source.rest start.source.pos
      Reading.readElements (start.source.rest.length + 1)
      finish) :=
  rfl

/-- What was read. -/
def ofState (s : ReadState) : Regex :=
  ⟨settleAlphabet s.flags, s.level.pattern, (s.level.pattern.width s.groups.width).least⟩

/-- A reading ends well if all brackets are closed, nothing is left, one alphabet at most was chosen
and all groups that were promised exist. -/
theorem finish_eq_ok_iff {r : Regex} :
    finish s = .ok (r, t) ↔
      s.brackets = [] ∧ ¬(s.flags.ascii = true ∧ s.flags.unicode = true) ∧ s.source.rest = [] ∧
        (∀ g ∈ s.promises.map Prod.fst, g < s.groups.next) ∧ r = ofState s ∧ t = s := by
  have hpromises : (s.promises.reverse.find? fun (g, _) => s.groups.next ≤ g) = none ↔
      ∀ g ∈ s.promises.map Prod.fst, g < s.groups.next := by
    simp
  constructor
  · intro h
    obtain ⟨s₁, u, hs, h⟩ := Reading.bind_eq_ok_iff.mp h
    cases hs
    cases hb : s.brackets with
    | cons b bs =>
        rw [hb] at h
        exact absurd h (Fails.bind (.failAt _ _) _ _ _)
    | nil =>
        rw [hb, List.head?_nil] at h
        dsimp only at h
        split at h
        · exact absurd h (Fails.bind (.exceed _) _ _ _)
        rename_i halphabet
        split at h
        · exact absurd h (Fails.bind (.failBack _ _) _ _ _)
        rename_i hrest
        cases hfind : (s.promises.reverse.find? fun (g, _) => s.groups.next ≤ g) with
        | some r =>
            rw [hfind] at h
            exact absurd h (Fails.failAt _ _ _ _ _)
        | none =>
            rw [hfind] at h
            cases h
            exact
              ⟨rfl, by simpa using halphabet, by simpa using hrest, hpromises.mp hfind, rfl, rfl⟩
  · rintro ⟨hb, halphabet, hrest, hpromised, rfl, rfl⟩
    unfold finish
    rw [Reading.bind_of_eq_ok (a := t) (t := t) rfl, hb, List.head?_nil]
    dsimp only
    rw [if_neg (by simpa using halphabet), if_neg (by simp [hrest]), hpromises.mpr hpromised]
    rfl

theorem finish_unbalanced {ts : List Token} (hrest : s.source.rest = .plain ')' :: ts)
    (hbrackets : s.brackets = []) (halphabet : ¬(s.flags.ascii = true ∧ s.flags.unicode = true)) :
    ∃ place, finish s = .error (.malformed .unbalanced place) := by
  refine ⟨some (Place.of s.source.pattern s.source.pos), ?_⟩
  unfold finish
  rw [Reading.bind_of_eq_ok (a := s) (t := s) rfl, hbrackets, List.head?_nil]
  dsimp only
  rw [if_neg (by simpa using halphabet), if_pos (by simp [hrest])]
  rfl

theorem readWhole_of_started (h : s.source.rest = [] → s.source.dangling = false) :
    readWhole s =
      (Reading.readElements (s.source.rest.length + 1) >>= fun _ => finish) s := by
  have hmove : Reading.moveTo s.source.rest s.source.pos s = .ok ((), s) := Reading.moveTo_eq_ok h
  rw [readWhole_eq]
  show (Reading.moveTo s.source.rest s.source.pos >>= fun _ =>
    Reading.readElements (s.source.rest.length + 1) >>= fun _ => finish) s = _
  rw [Reading.bind_of_eq_ok hmove]

theorem readWhole_ne_ok (hrest : s.source.rest = []) (hdangling : s.source.dangling = true)
    (x : Regex × ReadState) : readWhole s ≠ .ok x := by
  intro h
  rw [readWhole_eq] at h
  obtain ⟨start, u, hs, h⟩ := Reading.bind_eq_ok_iff.mp h
  cases hs
  obtain ⟨a, v, hv, -⟩ := Reading.bind_eq_ok_iff.mp h
  exact Reading.moveTo_ne_ok hrest hdangling a v hv

theorem read_eq (flags : Flags) {p : Text}
    (hp : (Token.ofText p).1 = [] → (Token.ofText p).2 = false) :
    read flags p =
      ((Reading.readElements ((Token.ofText p).1.length + 1) >>= fun _ => finish)
        (start flags p)).map Prod.fst :=
  congrArg (Except.map Prod.fst) (readWhole_of_started (s := start flags p) hp)

/-- A pattern must not be a lone backslash. -/
theorem read_ne_ok {p : Text} (hp : (Token.ofText p).1 = []) (hdangling : (Token.ofText p).2 = true)
    (flags : Flags) (r : Regex) : read flags p ≠ .ok r := by
  intro hr
  have hread : (readWhole (start flags p)).map Prod.fst = .ok r := hr
  cases hwhole : readWhole (start flags p) with
  | error e =>
      rw [hwhole] at hread
      cases hread
  | ok x => exact readWhole_ne_ok hp hdangling x hwhole

/-- What is found at the end of the reading decides. -/
theorem read_eq_ok_iff {m : Reading Unit} {r : Regex} :
    ((m >>= fun _ => finish) s).map Prod.fst = .ok r ↔
      ∃ t, m s = .ok ((), t) ∧ finish t = .ok (r, t) := by
  constructor
  · intro h
    cases hm : (m >>= fun _ => finish) s with
    | error e =>
        rw [hm] at h
        cases h
    | ok x =>
        rw [hm] at h
        cases h
        obtain ⟨⟨⟩, t, ht, hfinish⟩ := Reading.bind_eq_ok_iff.mp hm
        obtain ⟨-, -, -, -, -, hx⟩ := finish_eq_ok_iff.mp hfinish
        exact ⟨t, ht, hx ▸ hfinish⟩
  · rintro ⟨t, ht, hfinish⟩
    rw [Reading.bind_of_eq_ok ht, hfinish]
    rfl

/-- Making a pattern ready checks more after it was read. -/
theorem compile_eq_ok_iff {flags : Flags} {p : Text} {r : Regex} :
    compile flags p = .ok r ↔
      read flags p = .ok r ∧ complaint? r.flags.template r.pattern = none ∧
        looksTooFar r.pattern = false := by
  rw [compile]
  cases read flags p with
  | error e => simp
  | ok q =>
      dsimp only
      cases hcomplaint : complaint? q.flags.template q.pattern with
      | some c =>
          refine ⟨nofun, ?_⟩
          rintro ⟨hq, hnone, -⟩
          cases hq
          rw [hcomplaint] at hnone
          cases hnone
      | none =>
          dsimp only
          cases hfar : looksTooFar q.pattern with
          | true =>
              refine ⟨nofun, ?_⟩
              rintro ⟨hq, -, hfalse⟩
              cases hq
              rw [hfar] at hfalse
              cases hfalse
          | false =>
              refine ⟨fun h => ?_, fun h => h.1⟩
              cases h
              exact ⟨rfl, hcomplaint, hfar⟩

end Regex

end TextShell
