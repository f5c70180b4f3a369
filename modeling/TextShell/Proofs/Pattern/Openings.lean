import TextShell.Proofs.Pattern.Quantifiers

/-!
# Opening brackets in an enclosed pattern

What an opening bracket and the characters after it begin is read alike whether the pattern is
enclosed or not, with one exception.  Flags for the whole pattern may stand at its start only
(`ReadState.AtStart`), and the start of the enclosed pattern is before the bracket that was put
there.  Enclosed they are refused (`FollowsAt.openGroup`).

## Main Definitions

* `ReadState.AtStart` — nothing was read yet but comments and flags
* `ChoosesFlags` — flag letters up to a closing bracket
* `Reading.openExtension`, `Reading.openFlagged`, `Reading.settleGlobalFlags` — the steps of opening
  a bracket
-/

namespace TextShell

/-- A bracket more is open. -/
theorem Pairing.Brackets.cons {mode : Pairing} {bs bs' : List Bracket} (h : mode.Brackets bs bs')
    {b b' : Bracket} (hshape : b'.shape = b.shape) : mode.Brackets (b :: bs) (b' :: bs') := by
  cases mode with
  | enclosed =>
      have hshapes : bs'.map Bracket.shape = bs.map Bracket.shape ++ [enclosingBracket] := h
      show (b' :: bs').map Bracket.shape = (b :: bs).map Bracket.shape ++ [enclosingBracket]
      rw [List.map_cons, List.map_cons, hshape, hshapes, List.cons_append]
  | stuck =>
      refine ⟨?_, List.cons_ne_nil b bs⟩
      rw [List.map_cons, List.map_cons, hshape, h.1]

/-- The same numbers are promised. -/
theorem Alongside.promised_isNone {mode : Pairing} {s s' : ReadState} (h : Alongside mode s s')
    (g : Nat) : (s'.promises.lookup g).isNone = (s.promises.lookup g).isNone := by
  have hmem : ∀ l : Promises, (l.lookup g).isNone = decide (g ∉ l.map Prod.fst) := by
    intro l
    rw [Bool.eq_iff_iff, Option.isNone_iff_eq_none, List.lookup_eq_none_iff, decide_eq_true_iff,
      List.mem_map]
    constructor
    · rintro hne ⟨p, hp, rfl⟩
      simpa using hne p hp
    · intro hne p hp
      exact bne_iff_ne.mpr fun heq => hne ⟨p, hp, heq.symm⟩
  rw [hmem, hmem, h.promised]

/-- Going inside a bracket does not change what is outside of all. -/
theorem ReadState.bottom_enter (s : ReadState) (opener : Opener) (start : Nat) (l : Level) :
    ReadState.bottom { s with brackets := ⟨opener, start, s.level⟩ :: s.brackets, level := l } =
      s.bottom := by
  unfold ReadState.bottom
  rw [List.getLast?_cons]
  cases s.brackets.getLast? <;> rfl

namespace Follows

/-! ## Groups -/

/-- Going inside a bracket. -/
theorem enter (start start' : Nat) (opener : Opener) (verbose : Bool) :
    Follows (Reading.enter start opener verbose) (Reading.enter start' opener verbose) := by
  refine changes (fun mode s s' hs => ?_) (fun _ => rfl) fun _ => rfl
  have hshape : Bracket.shape ⟨opener, start', s'.level⟩ =
      Bracket.shape ⟨opener, start, s.level⟩ := by
    rw [hs.level]
    rfl
  exact {
    hs with
    brackets := hs.brackets.cons hshape
    level := rfl
    bottom := fun hmode => by
      rw [ReadState.bottom_enter]
      exact hs.bottom hmode }

theorem enterAlike (start start' : Nat) (opener : Opener) :
    Follows (Reading.enterAlike start opener) (Reading.enterAlike start' opener) := by
  refine looks fun mode s s' hs => ?_
  rw [hs.level]
  exact enter _ _ _ _ mode s s' hs

theorem checkGroupName (name : Text) :
    Follows (Reading.checkGroupName name) (Reading.checkGroupName name) :=
  check (.failBack _ _) (.failBack _ _) (returns _)

theorem groupNamed (name : Text) :
    Follows (Reading.groupNamed name) (Reading.groupNamed name) := by
  refine looks fun mode s s' hs => ?_
  rw [hs.groups]
  refine Follows.along ?_ hs
  cases s.groups.names.lookup name with
  | some g => exact returns g
  | none => exact of_fails (.failBack _ _) (.failBack _ _)

theorem openCapture (start start' : Nat) (name : Option Text) :
    Follows (Reading.openCapture start name) (Reading.openCapture start' name) := by
  refine looks fun mode s s' hs => ?_
  rw [hs.groups]
  have hopens : FollowsAt (fun _ => False) mode s s'
      (do
        set { s with groups := s.groups.open name }
        Reading.enterAlike start (.capture s.groups.next))
      (do
        set { s' with groups := s.groups.open name }
        Reading.enterAlike start' (.capture s.groups.next)) := by
    refine .sets_bind (Nat.le_refl _) (Nat.le_refl _) (enterAlike _ _ _ _ _ _ ?_)
    exact { hs with groups := rfl }
  cases name with
  | none => exact hopens
  | some name =>
      dsimp only
      cases s.groups.names.lookup name with
      | none => exact hopens
      | some old =>
          exact (of_fails (Fails.failBack _ _).bind (Fails.failBack _ _).bind) mode s s' hs

theorem openNamedBound (g : Nat) :
    Follows (Reading.openNamed.checkBound g) (Reading.openNamed.checkBound g) := by
  refine looks fun mode s s' hs => ?_
  rw [hs.bound]
  refine Follows.along ?_ hs
  cases s.bound with
  | none => exact returns _
  | some bound => exact check (.failBack _ _) (.failBack _ _) (returns _)

theorem openNamed (start start' : Nat) :
    Follows (Reading.openNamed start) (Reading.openNamed start') := by
  refine (accept (by decide)).bind fun angle => branch (fun _ => ?_) fun _ => ?_
  · refine (readName _ _).bind fun name => ?_
    exact (checkGroupName name).bind fun _ => openCapture _ _ _
  · refine (accept (by decide)).bind fun equals => branch (fun _ => ?_) fun _ => ?_
    · refine (readName _ _).bind fun name => ?_
      refine (checkGroupName name).bind fun _ => (groupNamed name).bind fun g => ?_
      refine looks fun mode s s' hs => ?_
      rw [hs.groups]
      refine Follows.along ?_ hs
      refine checked (.failBack _ _) (.failBack _ _) ?_
      exact (openNamedBound g).bind fun _ => add _
    · refine of_fails (Fails.bind_right fun t => ?_) (Fails.bind_right fun t => ?_)
      · cases t <;> exact .failBack _ _
      · cases t <;> exact .failBack _ _

theorem openAhead (start start' : Nat) (negated : Bool) :
    Follows (Reading.openAhead start negated) (Reading.openAhead start' negated) :=
  enterAlike _ _ _

theorem openBehind (start start' : Nat) :
    Follows (Reading.openBehind start) (Reading.openBehind start') := by
  refine nextToken_bind (.failBack _ _) (.failBack _ _) fun t => ?_
  refine branch (fun _ => ?_) fun _ => of_fails (.failBack _ _) (.failBack _ _)
  refine looks fun mode s s' hs => ?_
  rw [hs.bound, hs.groups]
  refine .sets_bind (Nat.le_refl _) (Nat.le_refl _) (enterAlike _ _ _ _ _ _ ?_)
  exact { hs with groups := rfl, bound := rfl }

theorem conditionGroup (name : Text) :
    Follows (Reading.conditionGroup name) (Reading.conditionGroup name) := by
  refine branch (fun _ => groupNamed name) fun _ => ?_
  cases name.toInteger? with
  | none => exact of_fails (.failBack _ _) (.failBack _ _)
  | some i =>
      cases i with
      | negSucc n => exact of_fails (.failBack _ _) (.failBack _ _)
      | ofNat g =>
          refine checked (.failBack _ _) (.failBack _ _) ?_
          refine checked (.failBack _ _) (.failBack _ _) ?_
          refine looks fun mode s s' hs => ?_
          rw [hs.promised_isNone]
          refine .branch (fun _ => ?_) fun _ => .returns hs g
          refine .sets_bind (Nat.le_refl _) (Nat.le_refl _) (.returns ?_ g)
          exact { hs with promised := by rw [List.map_cons, List.map_cons, hs.promised] }

theorem openCondition (start start' : Nat) :
    Follows (Reading.openCondition start) (Reading.openCondition start') := by
  refine (readName _ _).bind fun name => (conditionGroup name).bind fun g => ?_
  refine looks fun mode s s' hs => ?_
  rw [hs.bound, hs.groups]
  refine Follows.along ?_ hs
  cases s.bound with
  | none => exact enterAlike _ _ _
  | some bound =>
      refine checked (.failBack _ _) (.failBack _ _) ?_
      exact checked (.failBack _ _) (.failBack _ _) (enterAlike _ _ _)

end Follows

namespace Reading

/-- Reading a comment in brackets. -/
def openComment (start : Nat) : Reading Unit := do
  if !(← skipThrough ')') then failAt start .unterminatedComment

variable {s : ReadState} {start : Nat}

theorem openComment_of_split {before after : List Token}
    (h : splitAtPlain ')' s.source.rest = some (before, after)) :
    openComment start s =
      (do
        moveTo after (s.source.pos + (tokensText before).length + 1)
        return () : Reading Unit) s := by
  unfold openComment
  rw [bind_congr_at (skipThrough_of_split h), bind_assoc]
  rfl

theorem openComment_ne_ok (h : splitAtPlain ')' s.source.rest = none) (a : Unit) (t : ReadState) :
    openComment start s ≠ .ok (a, t) := by
  intro hok
  obtain ⟨found, u, hfound, hfail⟩ := bind_eq_ok_iff.mp hok
  rw [skipThrough_of_not_split h] at hfound
  obtain ⟨-, v, -, hv⟩ := bind_eq_ok_iff.mp hfound
  cases hv
  cases hfail

end Reading

namespace Follows

theorem openComment (start start' : Nat) :
    Follows (Reading.openComment start) (Reading.openComment start') :=
  fun _ _ _ hs => .through hs (fun _ => returns ()) (fun _ _ => Reading.openComment_of_split)
    (fun _ _ => Reading.openComment_of_split) Reading.openComment_ne_ok Reading.openComment_ne_ok

end Follows

/-! ## Flags for the whole pattern -/

/-- Nothing was read yet but comments and flags. -/
def ReadState.AtStart (s : ReadState) : Prop :=
  s.brackets = [] ∧ s.level.finished = [] ∧ s.level.parts = []

/-- Flag letters up to a closing bracket. -/
def ChoosesFlags (ts : List Token) : Prop :=
  ∃ letters rest, ts = letters ++ .plain ')' :: rest ∧ letters ≠ [] ∧
    ∀ t ∈ letters, t.flag?.isSome = true

namespace Reading

variable {s t : ReadState}

/-- The flags that are turned on are letters, and what ends them is none. -/
theorem readFlagsOn_eq_ok {fuel : Nat} {letter : FlagLetter} {on : Flags} {r : Flags × Token}
    (h : readFlagsOn fuel letter on s = .ok (r, t)) :
    ∃ source letters, t = { s with source := source } ∧
      s.source.rest = letters ++ r.2 :: source.rest ∧ (∀ t ∈ letters, t.flag?.isSome = true) ∧
      r.2.flag? = none := by
  induction fuel generalizing letter on s with
  | zero => exact absurd h (by cases letter <;> exact Fails.failBack _ _ _ _ _)
  | succ fuel ih =>
      cases letter with
      | locale => exact absurd h (Fails.failBack _ _ _ _ _)
      | flag f =>
          unfold readFlagsOn at h
          dsimp only at h
          split at h
          · exact absurd h (Fails.bind (.failBack _ _) _ _ _)
          obtain ⟨x, u, hu, h⟩ := bind_eq_ok_iff.mp h
          rcases nextToken_eq_ok hu with ⟨-, rfl, -⟩ | ⟨t₁, source, hcons, rfl, rfl⟩
          · exact absurd h (Fails.failBack _ _ _ _ _)
          dsimp only at h
          split at h
          · rename_i hends
            cases h
            refine ⟨source, [], rfl, hcons, nofun, ?_⟩
            simp only [Bool.or_eq_true, decide_eq_true_eq] at hends
            rcases hends with (rfl | rfl) | rfl <;> rfl
          · cases hflag : t₁.flag? with
            | none =>
                rw [hflag] at h
                exact absurd h (notAFlag_fails _ _ _ _ _)
            | some g =>
                rw [hflag] at h
                obtain ⟨source', letters, rfl, hrest, hletters, hlast⟩ := ih h
                refine ⟨source', t₁ :: letters, rfl, ?_, ?_, hlast⟩
                · rw [hcons, List.cons_append, ← hrest]
                · exact List.forall_mem_cons.mpr ⟨by rw [hflag]; rfl, hletters⟩

/-- A result is given after another computation only if it is given. -/
theorem bind_ne_ok {α β : Type} {m : Reading α} {f : α → Reading β} {b : β}
    (h : ∀ a u, f a u ≠ .ok (b, t)) : (m >>= f) s ≠ .ok (b, t) := by
  intro hok
  obtain ⟨a, u, -, hu⟩ := bind_eq_ok_iff.mp hok
  exact h a u hu

/-- A check does not change the result. -/
theorem checked_ne_ok {α β : Type} {c : Prop} [Decidable c] {m : Reading α} {k : Reading β} {b : β}
    (h : ∀ u, k u ≠ .ok (b, t)) :
    (if c then m >>= fun _ => k else k : Reading β) s ≠ .ok (b, t) := by
  by_cases hc : c
  · rw [if_pos hc]
    exact bind_ne_ok fun _ => h
  · rw [if_neg hc]
    exact h s

theorem settleFlags_ne_none (on off : Flags) : settleFlags on off s ≠ .ok (none, t) :=
  checked_ne_ok fun _ => checked_ne_ok fun _ => nofun

theorem afterFlagsOn_eq_none {fuel : Nat} {on : Flags} {terminator : Token}
    (h : afterFlagsOn fuel on terminator s = .ok (none, t)) :
    terminator = .plain ')' ∧ t = { s with flags := s.flags.union on } := by
  unfold afterFlagsOn at h
  dsimp only at h
  split at h
  · rename_i hterminator
    cases h
    exact ⟨hterminator, rfl⟩
  · refine absurd h (checked_ne_ok fun u => ?_)
    split
    · refine bind_ne_ok fun x v => ?_
      cases x with
      | none => exact bind_ne_ok fun off w => settleFlags_ne_none on off
      | some t₁ =>
          dsimp only
          cases t₁.flag? <;> exact bind_ne_ok fun off w => settleFlags_ne_none on off
    · exact bind_ne_ok fun off w => settleFlags_ne_none on off

/-- Flags that are for the whole pattern are letters up to a closing bracket. -/
theorem readFlags_eq_none {first : Token} (hfirst : first ≠ .plain ')')
    (h : readFlags first s = .ok (none, t)) :
    ∃ source flags, t = { s with source := source, flags := flags } ∧
      ChoosesFlags (first :: s.source.rest) := by
  rw [readFlags_eq] at h
  obtain ⟨fuel, u, hu, h⟩ := bind_eq_ok_iff.mp h
  cases hu
  cases hflag : first.flag? with
  | none =>
      rw [hflag] at h
      exact absurd (afterFlagsOn_eq_none h).1 hfirst
  | some f =>
      rw [hflag] at h
      obtain ⟨⟨on, terminator⟩, v, hv, h⟩ := bind_eq_ok_iff.mp h
      obtain ⟨source, letters, rfl, hrest, hletters, -⟩ := readFlagsOn_eq_ok hv
      obtain ⟨rfl, rfl⟩ := afterFlagsOn_eq_none h
      refine ⟨source, _, rfl, first :: letters, source.rest, ?_, List.cons_ne_nil _ _, ?_⟩
      · rw [hrest, List.cons_append]
      · exact List.forall_mem_cons.mpr ⟨by rw [hflag]; rfl, hletters⟩

/-- Opens the group for which flags are turned on and off. -/
def enterFlagged (start : Nat) (on off : Flags) : Reading Unit := do
  let s ← get
  enter start (.flagged on off) ((s.level.verbose || on.verbose) && !off.verbose)

/-- Lets flags be those of the whole pattern. -/
def settleGlobalFlags (start : Nat) : Reading Unit := do
  let s ← get
  if !(s.brackets.isEmpty && s.level.finished.isEmpty && s.level.parts.isEmpty) then
    failAt start .lateGlobalFlags
  set { s with level := { s.level with verbose := s.flags.verbose } }

theorem settleGlobalFlags_eq_ok {start : Nat} {a : Unit}
    (h : settleGlobalFlags start s = .ok (a, t)) :
    s.AtStart ∧ t = { s with level := { s.level with verbose := s.flags.verbose } } := by
  have hread : settleGlobalFlags start s =
      (if !(s.brackets.isEmpty && s.level.finished.isEmpty && s.level.parts.isEmpty) then do
        failAt start .lateGlobalFlags
        set { s with level := { s.level with verbose := s.flags.verbose } }
      else
        set { s with level := { s.level with verbose := s.flags.verbose } } : Reading Unit) s :=
    rfl
  rw [hread] at h
  split at h
  · exact absurd h (Fails.bind (.failAt _ _) _ _ _)
  · rename_i hstart
    cases h
    simp only [Bool.not_eq_true, Bool.not_eq_false', Bool.and_eq_true, List.isEmpty_iff] at hstart
    exact ⟨⟨hstart.1.1, hstart.1.2, hstart.2⟩, rfl⟩

/-- What comes after an opening bracket and a question mark, of which the given token was read. -/
def openExtension (start : Nat) : Option Token → Reading Unit
  | none => failBack 0 .endInGroup
  | some (.plain 'P') => openNamed start
  | some (.plain ':') => enterAlike start .plain
  | some (.plain '#') => openComment start
  | some (.plain '=') => openAhead start false
  | some (.plain '!') => openAhead start true
  | some (.plain '<') => openBehind start
  | some (.plain '(') => openCondition start
  | some (.plain '>') => enterAlike start .atomic
  | some t =>
    if t.flag?.isSome || t = .plain '-' then openFlags start t
    else failBack (t.size + 1) (.unknownExtension ("?" ++ t.text))

theorem openGroup_eq (start : Nat) :
    openGroup start = (do
      if !(← accept '?') then openCapture start none
      else nextToken >>= openExtension start) :=
  rfl

/-- Opens what flags announce, after those that are turned on. -/
def openFlagged (fuel start : Nat) (on : Flags) (terminator : Token) : Reading Unit := do
  match ← afterFlagsOn fuel on terminator with
  | some (on, off) => enterFlagged start on off
  | none => settleGlobalFlags start

theorem openFlags_eq_readFlags_bind (start : Nat) (first : Token) :
    openFlags start first = (do
      match ← readFlags first with
      | some (on, off) => enterFlagged start on off
      | none => settleGlobalFlags start) :=
  rfl

theorem openFlags_eq (start : Nat) (first : Token) :
    openFlags start first = (do
      let fuel := (← get).source.rest.length + 1
      match first.flag? with
      | some f =>
        let (on, terminator) ← readFlagsOn fuel f {}
        openFlagged fuel start on terminator
      | none => openFlagged fuel start {} first) := by
  rw [openFlags_eq_readFlags_bind, readFlags_eq, bind_assoc]
  refine bind_congr fun s => ?_
  cases first.flag? with
  | none => rfl
  | some f => rw [bind_assoc]; rfl

theorem openFlagged_eq_ok {fuel start : Nat} {on : Flags} {terminator : Token} {a : Unit}
    (hterminator : terminator = .plain ')')
    (h : openFlagged fuel start on terminator s = .ok (a, t)) :
    s.AtStart ∧ t.AtStart := by
  subst hterminator
  obtain ⟨r, u, hu, hsettle⟩ := bind_eq_ok_iff.mp h
  rw [afterFlagsOn, if_pos rfl] at hu
  cases hu
  obtain ⟨hstart, rfl⟩ := settleGlobalFlags_eq_ok hsettle
  exact ⟨hstart, hstart⟩

end Reading

theorem Follows.enterFlagged (start start' : Nat) (on off : Flags) :
    Follows (Reading.enterFlagged start on off) (Reading.enterFlagged start' on off) := by
  refine looks fun mode s s' hs => ?_
  rw [hs.level]
  exact enter _ _ _ _ mode s s' hs

theorem KeepsAt.openFlagged (s : ReadState) (fuel start : Nat) (on : Flags) (terminator : Token) :
    KeepsAt s (Reading.openFlagged fuel start on terminator) := by
  intro hs a u hu
  by_cases hterminator : terminator = .plain ')'
  · exact absurd (Reading.openFlagged_eq_ok hterminator hu).1.1 hs.2
  · have hafter : FollowsBelow fuel fuel (Reading.afterFlagsOn fuel on terminator)
        (Reading.afterFlagsOn fuel on terminator) := .afterFlagsOn on hterminator
    refine (hafter.keeps s).bind (fun r t ht => ?_) hs a u hu
    cases r with
    | some r => exact (Follows.enterFlagged start start r.1 r.2).keeps t
    | none => exact absurd (Reading.afterFlagsOn_eq_none ht).1 hterminator

namespace FollowsAt

variable {mode : Pairing} {s s' : ReadState} {start start' : Nat}

/-- What comes after the flags that are turned on.  Flags for the whole pattern are refused when the
pattern is enclosed. -/
theorem openFlagged {k k' : Nat} (hs : Alongside mode s s') (hlt : s.left < k) (hlt' : s'.left < k')
    (on : Flags) (terminator : Token) :
    FollowsAt (fun u => u.AtStart ∧ terminator = .plain ')') mode s s'
      (Reading.openFlagged k start on terminator)
      (Reading.openFlagged k' start' on terminator) := by
  by_cases hterminator : terminator = .plain ')'
  · refine Or.inr ⟨fun a u hu => ?_, fun a u' hu' => ?_⟩
    · exact ⟨(Reading.openFlagged_eq_ok hterminator hu).2, hterminator⟩
    · exact absurd (Reading.openFlagged_eq_ok hterminator hu').1.1 hs.brackets_ne_nil
  · have hafter : FollowsBelow k k' (Reading.afterFlagsOn k on terminator)
        (Reading.afterFlagsOn k' on terminator) := .afterFlagsOn on hterminator
    refine (hafter.follows hs hlt hlt').bind (fun r t t' ht _ halong _ _ => ?_) fun r t' ht' => ?_
    · cases r with
      | some r => exact (Follows.enterFlagged _ _ r.1 r.2).along halong
      | none => exact absurd (Reading.afterFlagsOn_eq_none ht).1 hterminator
    · cases r with
      | some r => exact (Follows.enterFlagged start' start' r.1 r.2).keeps t'
      | none => exact absurd (Reading.afterFlagsOn_eq_none ht').1 hterminator

/-- Reading flags for a group or for the whole pattern. -/
theorem openFlags (hs : Alongside mode s s') {first : Token} (hfirst : first ≠ .plain ')') :
    FollowsAt (fun u => u.AtStart ∧ ChoosesFlags (first :: s.source.rest)) mode s s'
      (Reading.openFlags start first) (Reading.openFlags start' first) := by
  rw [Reading.openFlags_eq, Reading.openFlags_eq]
  refine looks ?_
  cases hflag : first.flag? with
  | none =>
      refine (openFlagged hs (Nat.lt_succ_self _) (Nat.lt_succ_self _) {} first).mono fun u hu => ?_
      exact absurd hu.2 hfirst
  | some f =>
      have hon := FollowsBelow.readFlagsOn (s.left + 1) (s'.left + 1) f {}
      refine (hon.follows hs (Nat.lt_succ_self _) (Nat.lt_succ_self _)).bind
        (fun r t t' ht _ halong hle hle' => ?_) fun r t' _ => ?_
      · refine (openFlagged halong (Nat.lt_succ_of_le hle) (Nat.lt_succ_of_le hle') r.1 r.2).mono ?_
        rintro u ⟨hstart, hterminator⟩
        obtain ⟨source, letters, -, hrest, hletters, -⟩ := Reading.readFlagsOn_eq_ok ht
        refine ⟨hstart, first :: letters, source.rest, ?_, List.cons_ne_nil _ _, ?_⟩
        · rw [hrest, hterminator, List.cons_append]
        · exact List.forall_mem_cons.mpr ⟨by rw [hflag]; rfl, hletters⟩
      · exact KeepsAt.openFlagged t' _ start' r.1 r.2

/-- Opening what a question mark announces. -/
theorem openExtension (hs : Alongside mode s s') (t : Token) :
    FollowsAt (fun u => u.AtStart ∧ ChoosesFlags (t :: s.source.rest)) mode s s'
      (Reading.openExtension start (some t)) (Reading.openExtension start' (some t)) := by
  unfold Reading.openExtension
  split <;> rename_i heq
  · cases heq
  · exact (Follows.openNamed _ _).along hs
  · exact (Follows.enterAlike _ _ _).along hs
  · exact (Follows.openComment _ _).along hs
  · exact (Follows.openAhead _ _ _).along hs
  · exact (Follows.openAhead _ _ _).along hs
  · exact (Follows.openBehind _ _).along hs
  · exact (Follows.openCondition _ _).along hs
  · exact (Follows.enterAlike _ _ _).along hs
  · obtain rfl := Option.some.inj heq
    refine .branch (fun hflag => openFlags hs ?_) fun _ => ?_
    · rintro rfl
      simp [Token.flag?, flagOf?] at hflag
    · exact (Follows.of_fails (.failBack _ _) (.failBack _ _)).along hs

/-- Opening a group, or what is written like one. -/
theorem openGroup (hs : Alongside mode s s') :
    FollowsAt (fun u => u.AtStart ∧ ∃ ts, s.source.rest = .plain '?' :: ts ∧ ChoosesFlags ts) mode
      s s' (Reading.openGroup start) (Reading.openGroup start') := by
  rw [Reading.openGroup_eq, Reading.openGroup_eq]
  -- the token after the question mark, in whatever way the readings came to it
  have hextension : ∀ {mode t t'}, Alongside mode t t' →
      FollowsAt (fun u => u.AtStart ∧ ChoosesFlags t.source.rest) mode t t'
        (Reading.nextToken >>= Reading.openExtension start)
        (Reading.nextToken >>= Reading.openExtension start') := by
    intro mode t t' ht
    refine .nextToken_bind ht (.failBack _ _) (.failBack _ _) (fun t₁ u u' hu _ halong => ?_)
      fun t₁ u' _ => ?_
    · rw [hu]
      exact openExtension halong t₁
    · exact keeps (m := Reading.openExtension start' (some t₁))
        fun hu' => openExtension (.of_stuck hu') t₁
  refine (Follows.accept (by decide) mode s s' hs).bind (fun b t t' ht _ halong _ _ => ?_)
    fun b t' _ => ?_
  · refine .branch (fun _ => ?_) fun hb => ?_
    · exact (Follows.openCapture _ _ _).along halong
    · rcases Reading.accept_eq_ok ht with ⟨rfl, -⟩ | ⟨source, -, hcons, rfl⟩
      · exact absurd rfl hb
      · exact (hextension halong).mono fun u hu => ⟨hu.1, source.rest, hcons, hu.2⟩
  · cases b with
    | false => exact (Follows.openCapture start' start' none).keeps t'
    | true =>
        have hkeeps : KeepsAt t' (Reading.nextToken >>= Reading.openExtension start') :=
          keeps fun ht' => hextension (.of_stuck ht')
        exact hkeeps

end FollowsAt

end TextShell
