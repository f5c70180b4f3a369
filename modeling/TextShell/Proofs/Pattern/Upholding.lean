import TextShell.Proofs.Pattern.Ascending
import TextShell.Proofs.Pattern.Elements
import TextShell.Proofs.Pattern.Whole

/-!
# What the reader leaves alone

In the middle of reading, what was read of a pattern so far is the brackets that are open, the
inside of the innermost one and what is known of the groups (`Built`).  Most steps of the reader do
not touch it: they take tokens, look ahead or refuse the pattern.  Each of them keeps every property
of what was built, and this is how it is said here, so that it can be used in the middle of a step
that keeps only some.

## Main Definitions

* `Built`, `ReadState.built` — what was read of a pattern
* `Yields`, `Upholds` — a computation keeps a property of what was built
-/

namespace TextShell

/-- What was read of a pattern: the brackets that are open, the innermost first, the inside of the
innermost one, and what is known of the groups. -/
structure Built where
  brackets : List Bracket
  level : Level
  known : Groups

/-- What was read of a pattern in a state of reading. -/
def ReadState.built (s : ReadState) : Built :=
  ⟨s.brackets, s.level, s.groups⟩

/-! ## Computations that keep a property of what was built -/

/-- A computation keeps a property of what was built, and the values that it returns have another
one. -/
def Yields {α : Type} (I : Built → Prop) (Q : α → Prop) (m : Reading α) : Prop :=
  ∀ s a t, I s.built → m s = .ok (a, t) → I t.built ∧ Q a

/-- A computation keeps a property of what was built, whatever it returns. -/
abbrev Upholds {α : Type} (I : Built → Prop) (m : Reading α) : Prop :=
  Yields I (fun _ => True) m

namespace Yields

variable {α β : Type} {I : Built → Prop} {Q : α → Prop} {R : β → Prop}
variable {m m' : Reading α} {f : α → Reading β}

theorem returns {a : α} (h : Q a) : Yields I Q (pure a) := by
  intro s b t hs ht
  cases ht
  exact ⟨hs, h⟩

theorem of_fails (h : Fails m) : Yields I Q m :=
  fun s a t _ ht => absurd ht (h s a t)

theorem bind (h : Yields I Q m) (hf : ∀ a, Q a → Yields I R (f a)) : Yields I R (m >>= f) := by
  intro s b u hs hu
  obtain ⟨a, t, ht, hu⟩ := Reading.bind_eq_ok_iff.mp hu
  obtain ⟨hI, ha⟩ := h s a t hs ht
  exact hf a ha t b u hI hu

/-- After a computation of whose values nothing is needed. -/
theorem andThen (h : Upholds I m) (hf : ∀ a, Yields I R (f a)) : Yields I R (m >>= f) :=
  h.bind fun a _ => hf a

theorem branch {c : Prop} [Decidable c] (h : c → Yields I Q m) (h' : ¬c → Yields I Q m') :
    Yields I Q (if c then m else m') := by
  by_cases hc : c
  · rw [if_pos hc]
    exact h hc
  · rw [if_neg hc]
    exact h' hc

/-- A check that fails the reading. -/
theorem check {c : Prop} [Decidable c] (he : Fails m) (h : Yields I Q m') :
    Yields I Q (if c then m else m') :=
  branch (fun _ => of_fails he) fun _ => h

/-- A check that ends the reading, whatever would follow. -/
theorem checked {γ : Type} {c : Prop} [Decidable c] {e : Reading γ} {g : γ → Reading α}
    (he : Fails e) (h : Yields I Q m) : Yields I Q (if c then e >>= g else m) :=
  check he.bind h

/-- A look at the state. -/
theorem looks {f : ReadState → Reading β} (h : ∀ s, I s.built → Yields I R (f s)) :
    Yields I R (get >>= f) :=
  fun s b u hs hu => h s hs s b u hs hu

/-- Going to a state that has the property. -/
theorem sets {s : ReadState} (h : I s.built) : Upholds I (set s) := by
  intro _ _ t _ ht
  cases ht
  exact ⟨h, trivial⟩

/-- A change that keeps the property. -/
theorem changes {g : ReadState → ReadState} (h : ∀ s, I s.built → I (g s).built) :
    Upholds I (modify g) := by
  intro s _ t hs ht
  cases ht
  exact ⟨h s hs, trivial⟩

end Yields

/-! ## Steps that leave alone what was built -/

namespace Yields

variable {I : Built → Prop}

theorem moveTo (rest : List Token) (pos : Nat) : Upholds I (Reading.moveTo rest pos) := by
  refine andThen (changes fun _ hs => hs) fun _ => looks fun s _ => ?_
  exact check (.failAt _ _) (returns trivial)

theorem nextToken : Upholds I Reading.nextToken := by
  refine looks fun s _ => ?_
  cases s.source.rest with
  | nil => exact returns trivial
  | cons t ts => exact (moveTo _ _).andThen fun _ => returns trivial

theorem peek : Upholds I Reading.peek :=
  looks fun _ _ => returns trivial

theorem accept (c : Char) : Upholds I (Reading.accept c) := by
  refine peek.andThen fun next => branch (fun _ => ?_) fun _ => returns trivial
  exact nextToken.andThen fun _ => returns trivial

theorem takeUpTo (n : Nat) (p : Char → Bool) : Upholds I (Reading.takeUpTo n p) := by
  refine looks fun s _ => ?_
  rcases spanPlain p n s.source.rest with ⟨cs, rest⟩
  exact branch (fun _ => (moveTo _ _).andThen fun _ => returns trivial) fun _ => returns trivial

theorem takeWhile (p : Char → Bool) : Upholds I (Reading.takeWhile p) :=
  looks fun _ _ => takeUpTo _ p

theorem skipAll : Upholds I Reading.skipAll :=
  looks fun _ _ => moveTo _ _

theorem skipThrough (c : Char) : Upholds I (Reading.skipThrough c) := by
  refine looks fun s _ => ?_
  cases splitAtPlain c s.source.rest with
  | none => exact skipAll.andThen fun _ => returns trivial
  | some r => exact (moveTo _ _).andThen fun _ => returns trivial

theorem readName (terminator : Char) (kind : NameKind) :
    Upholds I (Reading.readName terminator kind) := by
  refine looks fun s _ => ?_
  cases splitAtPlain terminator s.source.rest with
  | none =>
      refine skipAll.andThen fun _ => ?_
      exact branch (fun _ => of_fails (.failBack _ _)) fun _ => of_fails (.failBack _ _)
  | some r =>
      exact (moveTo _ _).andThen fun _ => checked (.failBack _ _) (returns trivial)

/-! ### Escapes and sets -/

theorem readHex (letter : Char) (n : Nat) : Upholds I (Reading.readHex letter n) := by
  refine (takeUpTo n _).andThen fun digits => checked (.failBack _ _) ?_
  exact checked (.exceed _) (checked (.failBack _ _) (returns trivial))

theorem readCharName : Upholds I Reading.readCharName := by
  refine (accept _).andThen fun opened => checked (.failBack _ _) ?_
  refine (readName _ _).andThen fun name => ?_
  cases charNamed? name with
  | some code => exact returns trivial
  | none => exact of_fails (.failBack _ _)

theorem readCode? (letter : Char) : Upholds I (Reading.readCode? letter) := by
  unfold Reading.readCode?
  split
  · exact (readHex _ _).andThen fun _ => returns trivial
  · exact (readHex _ _).andThen fun _ => returns trivial
  · exact (readHex _ _).andThen fun _ => returns trivial
  · exact readCharName.andThen fun _ => returns trivial
  · exact returns trivial

theorem readOctal (first : Char) : Upholds I (Reading.readOctal first) :=
  (takeUpTo 2 _).andThen fun _ => checked (.failBack _ _) (returns trivial)

theorem plainEscape (c : Char) : Upholds I (Reading.plainEscape c) :=
  checked (.failBack _ _) (returns trivial)

theorem readClassEscape (c : Char) : Upholds I (Reading.readClassEscape c) := by
  unfold Reading.readClassEscape
  cases controlEscape? c with
  | some code => exact returns trivial
  | none =>
      cases categoryEscape? c with
      | some item => exact returns trivial
      | none =>
          refine (readCode? c).andThen fun code => ?_
          cases code with
          | some code => exact returns trivial
          | none =>
              refine branch (fun _ => ?_) fun _ => ?_
              · exact (readOctal c).andThen fun _ => returns trivial
              · exact (plainEscape c).andThen fun _ => returns trivial

theorem readClassItem (t : Token) : Upholds I (Reading.readClassItem t) := by
  cases t with
  | plain c => exact returns trivial
  | escaped c => exact readClassEscape c

theorem nextInSet (start : Nat) : Upholds I (Reading.nextInSet start) := by
  refine nextToken.andThen fun t => ?_
  cases t with
  | some t => exact returns trivial
  | none => exact of_fails (.failAt _ _)

theorem readClassItems (start n : Nat) (items : List ClassItem) :
    Upholds I (Reading.readClassItems start n items) := by
  induction n generalizing items with
  | zero => exact of_fails (.failAt _ _)
  | succ n ih =>
      have hbad (this that : Token) : Upholds I
          (Reading.readClassItems.badRange this that : Reading (List ClassItem)) :=
        of_fails (Reading.badRange_fails _ _)
      rw [Reading.readClassItems_succ]
      refine (nextInSet start).andThen fun this => branch (fun _ => returns trivial) fun _ => ?_
      refine (readClassItem this).andThen fun first => (accept _).andThen fun dash => ?_
      refine branch (fun _ => ih _) fun _ => ?_
      refine (nextInSet start).andThen fun that => branch (fun _ => returns trivial) fun _ => ?_
      refine (readClassItem that).andThen fun second => ?_
      cases first with
      | code lo =>
          cases second with
          | code hi => exact checked (Reading.badRange_fails _ _) (ih _)
          | range lo hi => exact hbad this that
          | category k negated => exact hbad this that
      | range lo hi => exact hbad this that
      | category k negated => exact hbad this that

/-- A set holds no groups. -/
theorem readClassSet (start : Nat) :
    Yields I (fun p => p.groups = []) (Reading.readClassSet start) := by
  refine (accept _).andThen fun negated => looks fun s _ => ?_
  exact (readClassItems _ _ _).andThen fun _ => returns rfl

theorem checkBound (g : Nat) : Upholds I (Reading.checkBound g) := by
  refine looks fun s _ => ?_
  cases s.bound with
  | none => exact returns trivial
  | some bound => exact checked (.failBack _ _) (check (.failBack _ _) (returns trivial))

theorem referTo (digits : Text) :
    Yields I (fun p => p.groups = []) (Reading.readNumber.referTo digits) := by
  refine looks fun s _ => checked (.failBack _ _) (checked (.failBack _ _) ?_)
  exact (checkBound _).andThen fun _ => returns rfl

theorem afterTwoDigits (first second : Char) :
    Yields I (fun p => p.groups = []) (Reading.afterTwoDigits first second) := by
  refine peek.andThen fun next => ?_
  match next with
  | none => exact referTo _
  | some (.escaped c) => exact referTo _
  | some (.plain third) =>
      refine branch (fun _ => ?_) fun _ => referTo _
      exact nextToken.andThen fun _ => checked (.failBack _ _) (returns rfl)

theorem readNumber (first : Char) :
    Yields I (fun p => p.groups = []) (Reading.readNumber first) := by
  rw [Reading.readNumber_eq]
  refine peek.andThen fun next => ?_
  match next with
  | none => exact referTo _
  | some (.escaped c) => exact referTo _
  | some (.plain second) =>
      refine branch (fun _ => referTo _) fun _ => ?_
      exact nextToken.andThen fun _ => afterTwoDigits first second

/-- An escape holds no groups. -/
theorem readEscape (c : Char) : Yields I (fun p => p.groups = []) (Reading.readEscape c) := by
  unfold Reading.readEscape
  cases anchorEscape? c with
  | some a => exact returns rfl
  | none =>
      cases categoryEscape? c with
      | some item => exact returns rfl
      | none =>
          cases controlEscape? c with
          | some code => exact returns rfl
          | none =>
              refine (readCode? c).andThen fun code => ?_
              cases code with
              | some code => exact returns rfl
              | none =>
                  refine branch (fun _ => (readOctal c).andThen fun _ => returns rfl) fun _ => ?_
                  refine branch (fun _ => readNumber c) fun _ => ?_
                  exact (plainEscape c).andThen fun _ => returns rfl

/-! ### Bounds, flags and names -/

theorem repetitions? (digits : Text) : Upholds I (Reading.repetitions? digits) := by
  refine branch (fun _ => returns trivial) fun _ => ?_
  exact checked (.exceed _) (checked (.exceed _) (returns trivial))

theorem readBounds? : Upholds I Reading.readBounds? := by
  rw [Reading.readBounds?_eq]
  refine looks fun s hs => peek.andThen fun next => branch (fun _ => returns trivial) fun _ => ?_
  have htexts : Upholds I Reading.readBoundTexts := by
    refine (takeWhile _).andThen fun lo => (accept _).andThen fun comma => ?_
    have hclosed (hi : Text) : Upholds I
        (Reading.accept '\x7d' >>= fun closed => pure (lo, hi, closed)) :=
      (accept _).andThen fun _ => returns trivial
    refine branch (fun _ => ?_) fun _ => ?_
    · exact (takeWhile _).andThen hclosed
    · exact (returns (Q := fun _ => True) trivial).andThen hclosed
  refine htexts.andThen fun r => branch (fun _ => ?_) fun _ => ?_
  · refine (repetitions? _).andThen fun least => (repetitions? _).andThen fun most => ?_
    cases most with
    | none => exact returns trivial
    | some n => exact checked (.failAt _ _) (returns trivial)
  · exact (sets hs).andThen fun _ => returns trivial

theorem notAFlag {α : Type} {Q : α → Prop} (t : Token) (missing : Complaint) :
    Yields I Q (Reading.notAFlag t missing) :=
  of_fails (Reading.notAFlag_fails _ _)

theorem readFlagsOn (n : Nat) (letter : FlagLetter) (on : Flags) :
    Upholds I (Reading.readFlagsOn n letter on) := by
  induction n generalizing letter on with
  | zero => exact of_fails (by cases letter <;> exact .failBack _ _)
  | succ n ih =>
      cases letter with
      | locale => exact of_fails (.failBack _ _)
      | flag f =>
          refine checked (.failBack _ _) (nextToken.andThen fun next => ?_)
          cases next with
          | none => exact of_fails (.failBack _ _)
          | some t =>
              refine branch (fun _ => returns trivial) fun _ => ?_
              cases t.flag? with
              | some g => exact ih g _
              | none => exact notAFlag _ _

theorem readFlagsOff (n : Nat) (letter : FlagLetter) (off : Flags) :
    Upholds I (Reading.readFlagsOff n letter off) := by
  induction n generalizing letter off with
  | zero => exact of_fails (by cases letter <;> exact .failBack _ _)
  | succ n ih =>
      cases letter with
      | locale => exact of_fails (.failBack _ _)
      | flag f =>
          refine checked (.failBack _ _) (nextToken.andThen fun next => ?_)
          cases next with
          | none => exact of_fails (.failBack _ _)
          | some t =>
              refine branch (fun _ => returns trivial) fun _ => ?_
              cases t.flag? with
              | some g => exact ih g _
              | none => exact notAFlag _ _

theorem settleFlags (on off : Flags) : Upholds I (Reading.settleFlags on off) :=
  checked (.failBack _ _) (checked (.failBack _ _) (returns trivial))

theorem afterFlagsOn (n : Nat) (on : Flags) (terminator : Token) :
    Upholds I (Reading.afterFlagsOn n on terminator) := by
  refine branch (fun _ => andThen (changes fun _ hs => hs) fun _ => returns trivial) fun _ => ?_
  refine checked (.failBack _ _) (branch (fun _ => ?_) fun _ => ?_)
  · refine nextToken.andThen fun next => ?_
    cases next with
    | none => exact of_fails (Fails.bind (.failBack _ _))
    | some t =>
        dsimp only
        cases t.flag? with
        | some f => exact (readFlagsOff _ _ _).andThen fun _ => settleFlags _ _
        | none => exact (notAFlag _ _).andThen fun _ => settleFlags _ _
  · exact (returns (Q := fun _ => True) trivial).andThen fun _ => settleFlags _ _

theorem readFlags (first : Token) : Upholds I (Reading.readFlags first) := by
  rw [Reading.readFlags_eq]
  refine looks fun s _ => ?_
  dsimp only
  cases first.flag? with
  | some f => exact (readFlagsOn _ _ _).andThen fun _ => afterFlagsOn _ _ _
  | none => exact afterFlagsOn _ _ _

theorem checkGroupName (name : Text) : Upholds I (Reading.checkGroupName name) :=
  check (.failBack _ _) (returns trivial)

theorem groupNamed (name : Text) : Upholds I (Reading.groupNamed name) := by
  refine looks fun s _ => ?_
  cases s.groups.names.lookup name with
  | some g => exact returns trivial
  | none => exact of_fails (.failBack _ _)

theorem openNamedBound (g : Nat) : Upholds I (Reading.openNamed.checkBound g) := by
  refine looks fun s _ => ?_
  cases s.bound with
  | none => exact returns trivial
  | some bound => exact check (.failBack _ _) (returns trivial)

theorem conditionGroup (name : Text) : Upholds I (Reading.conditionGroup name) := by
  refine branch (fun _ => groupNamed name) fun _ => ?_
  match name.toInteger? with
  | none => exact of_fails (.failBack _ _)
  | some (.negSucc n) => exact of_fails (.failBack _ _)
  | some (.ofNat g) =>
      refine checked (.failBack _ _) (checked (.failBack _ _) (looks fun s hs => ?_))
      exact branch (fun _ => andThen (sets hs) fun _ => returns trivial) fun _ => returns trivial

end Yields

end TextShell
