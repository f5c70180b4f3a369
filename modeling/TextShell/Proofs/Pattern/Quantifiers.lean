import TextShell.Proofs.Pattern.Atoms
import TextShell.Pattern.GroupOpening

/-!
# Quantifiers and flags of an enclosed pattern

A part of an alternative, a quantifier after it and the flags of a group are read alike whether the
pattern is enclosed or not.

Bounds between braces are the one place where the reader goes back: if it finds no bounds, it takes
the brace for a character and reads again what follows.  Where the pattern ends in the middle of
them, the reading alone goes back as well, and does not fail.  So it matters that the way there
holds no closing bracket (`ReadsOver`): none is left from the brace on if none is left where the
reader turned back.

Flags are read letter by letter, and every round takes a token, so rounds enough are left as long as
there are more of them than tokens.

## Main Definitions

* `Reading.readBoundTexts`, `Reading.boundsOf` — reading bounds: finding them, and what they say
* `Reading.ReadsOver` — what was read holds no closing bracket
* `Reading.flagRound` — one round of reading flag letters
* `Reading.afterFlagsOn` — what comes after the flags that are turned on
-/

namespace TextShell

namespace Alongside

variable {mode : Pairing} {s s' : ReadState}

/-- The inside of the innermost bracket may change, but not what is done with blanks. -/
theorem withLevel (h : Alongside mode s s') {l l' : Level} (hl : l' = l)
    (hverbose : l.verbose = s.level.verbose) :
    Alongside mode { s with level := l } { s' with level := l' } where
  source := h.source
  brackets := h.brackets
  flags := h.flags
  alphabet := h.alphabet
  groups := h.groups
  bound := h.bound
  promised := h.promised
  level := hl
  ended := h.ended
  bottom hmode := by
    have hbottom := h.bottom hmode
    unfold ReadState.bottom at hbottom ⊢
    cases hlast : s.brackets.getLast? with
    | none => simpa [hlast, hverbose] using hbottom
    | some b => simpa [hlast] using hbottom

end Alongside

/-! ## Quantifiers -/

namespace Follows

theorem addPart (part : Part) : Follows (Reading.addPart part) (Reading.addPart part) := by
  refine changes (fun mode s s' hs => ?_) (fun _ => rfl) fun _ => rfl
  exact hs.withLevel (by rw [hs.level]) rfl

theorem replacesParts (parts : List Part) :
    Follows (modify fun s => { s with level := { s.level with parts := parts } } : Reading Unit)
      (modify fun s => { s with level := { s.level with parts := parts } }) := by
  refine changes (fun mode s s' hs => ?_) (fun _ => rfl) fun _ => rfl
  exact hs.withLevel (by rw [hs.level]) rfl

theorem add (p : Pattern) : Follows (Reading.add p) (Reading.add p) :=
  addPart _

theorem addAnchor (a : Anchor) : Follows (Reading.addAnchor a) (Reading.addAnchor a) :=
  addPart _

theorem repetitions? (digits : Text) :
    Follows (Reading.repetitions? digits) (Reading.repetitions? digits) := by
  refine branch (fun _ => returns _) fun _ => ?_
  refine checked (.exceed _) (.exceed _) ?_
  exact checked (.exceed _) (.exceed _) (returns _)

theorem quantify (start start' least : Nat) (most : Option Nat) :
    Follows (Reading.quantify start least most) (Reading.quantify start' least most) := by
  refine looks fun mode s s' hs => ?_
  rw [hs.level]
  refine Follows.along ?_ hs
  cases s.level.parts with
  | nil => exact of_fails (.failAt _ _) (.failAt _ _)
  | cons part parts =>
      obtain ⟨pattern, quantifiable⟩ := part
      cases quantifiable with
      | anchor => exact of_fails (.failAt _ _) (.failAt _ _)
      | repeated => exact of_fails (.failAt _ _) (.failAt _ _)
      | yes =>
          refine (accept (by decide)).bind fun lazily => ?_
          have hrepeats := fun greed => replacesParts
            ({ pattern := .iterate greed least most pattern, quantifiable := .repeated } :: parts)
          refine branch (fun _ => (returns _).bind fun _ => hrepeats _) fun _ => ?_
          exact (accept (by decide)).bind fun _ => hrepeats _

end Follows

namespace Reading

/-- The tokens from one state to another hold no closing bracket, and the same brackets are open. -/
def ReadsOver (s t : ReadState) : Prop :=
  ∃ taken, s.source.rest = taken ++ t.source.rest ∧ .plain ')' ∉ taken ∧ t.brackets = s.brackets

/-- The bounds between braces as they are written, and whether there is a closing brace. -/
def readBoundTexts : Reading (Text × Text × Bool) := do
  let lo ← takeWhile Char.isDigit
  let comma ← accept ','
  let hi ← if comma then takeWhile Char.isDigit else pure lo
  let closed ← accept '\x7d'
  return (lo, hi, closed)

/-- The bounds that are written between braces which open at `pos`. -/
def boundsOf (pos : Nat) (lo hi : Text) : Reading (Option (Nat × Option Nat)) := do
  let least := (← repetitions? lo).getD 0
  let most ← repetitions? hi
  if let some n := most then
    if n < least then failAt pos .minAboveMax
  return some (least, most)

theorem readBounds?_eq :
    readBounds? = (do
      let s ← get
      if (← peek) = some (.plain '\x7d') then return none
      let (lo, hi, closed) ← readBoundTexts
      if closed then boundsOf s.source.pos lo hi
      else
        set s
        return none) := by
  unfold readBounds? readBoundTexts boundsOf
  simp only [bind_assoc, pure_bind]
  refine bind_congr fun s => bind_congr fun next => ?_
  refine ite_congr rfl (fun _ => rfl) fun _ => bind_congr fun lo => bind_congr fun comma => ?_
  cases comma <;> simp only [Bool.false_eq_true, if_true, if_false, bind_assoc, pure_bind]
  · exact bind_congr fun closed => by cases closed <;> rfl
  · exact bind_congr fun hi => bind_congr fun closed => by cases closed <;> rfl

/-! Reading the bounds passes over no closing bracket. -/

theorem ReadsOver.refl (s : ReadState) : ReadsOver s s :=
  ⟨[], rfl, List.not_mem_nil, rfl⟩

theorem ReadsOver.trans {s t u : ReadState} (h : ReadsOver s t) (h' : ReadsOver t u) :
    ReadsOver s u := by
  obtain ⟨taken, hrest, hclosing, hbrackets⟩ := h
  obtain ⟨taken', hrest', hclosing', hbrackets'⟩ := h'
  refine ⟨taken ++ taken', ?_, ?_, hbrackets'.trans hbrackets⟩
  · rw [hrest, hrest', List.append_assoc]
  · simp [hclosing, hclosing']

/-- No closing bracket is left before what was read over if none is left after it. -/
theorem ReadsOver.stuck {s t : ReadState} (h : ReadsOver s t) (ht : t.Stuck) : s.Stuck := by
  obtain ⟨taken, hrest, hclosing, hbrackets⟩ := h
  refine ⟨?_, hbrackets ▸ ht.2⟩
  rw [hrest, List.mem_append, not_or]
  exact ⟨hclosing, ht.1⟩

theorem readsOver_of_accept {c : Char} (hc : c ≠ ')') {s t : ReadState} {b : Bool}
    (h : accept c s = .ok (b, t)) : ReadsOver s t := by
  rcases accept_eq_ok h with ⟨-, rfl, -⟩ | ⟨source, -, hcons, rfl⟩
  · exact .refl _
  · exact ⟨[.plain c], hcons, by simpa using hc.symm, rfl⟩

theorem readsOver_of_takeWhile {p : Char → Bool} (hp : p ')' = false) {s t : ReadState} {cs : Text}
    (h : takeWhile p s = .ok (cs, t)) : ReadsOver s t := by
  rcases hspan : spanPlain p s.source.rest.length s.source.rest with ⟨cs', rest⟩
  have hread : takeUpTo s.source.rest.length p s = .ok (cs, t) := h
  rw [takeUpTo_of_span hspan] at hread
  split at hread
  · cases hread
    exact .refl _
  · obtain ⟨x, u, hu, ht⟩ := bind_eq_ok_iff.mp hread
    cases ht
    obtain rfl := eq_of_moveTo hu
    obtain ⟨hcut, hall⟩ := spanPlain_eq hspan
    refine ⟨cs.map .plain, hcut, ?_, rfl⟩
    rw [List.mem_map]
    rintro ⟨c, hc, ⟨⟩⟩
    simp [hall _ hc] at hp

theorem readsOver_of_readBoundTexts {s t : ReadState} {r : Text × Text × Bool}
    (h : readBoundTexts s = .ok (r, t)) : ReadsOver s t := by
  obtain ⟨lo, u, hlo, h⟩ := bind_eq_ok_iff.mp h
  obtain ⟨comma, v, hcomma, h⟩ := bind_eq_ok_iff.mp h
  have hover : ReadsOver s v :=
    (readsOver_of_takeWhile rfl hlo).trans (readsOver_of_accept (by decide) hcomma)
  cases comma with
  | false =>
      obtain ⟨hi, w, hhi, h⟩ := bind_eq_ok_iff.mp h
      cases hhi
      obtain ⟨closed, w, hclosed, h⟩ := bind_eq_ok_iff.mp h
      cases h
      exact hover.trans (readsOver_of_accept (by decide) hclosed)
  | true =>
      obtain ⟨hi, w, hhi, h⟩ := bind_eq_ok_iff.mp h
      obtain ⟨closed, x, hclosed, h⟩ := bind_eq_ok_iff.mp h
      cases h
      exact (hover.trans (readsOver_of_takeWhile rfl hhi)).trans
        (readsOver_of_accept (by decide) hclosed)

end Reading

namespace Follows

theorem boundsOf (pos pos' : Nat) (lo hi : Text) :
    Follows (Reading.boundsOf pos lo hi) (Reading.boundsOf pos' lo hi) := by
  refine (repetitions? lo).bind fun least => (repetitions? hi).bind fun most => ?_
  cases most with
  | none => exact returns _
  | some n => exact checked (.failAt _ _) (.failAt _ _) (returns _)

theorem readBoundTexts : Follows Reading.readBoundTexts Reading.readBoundTexts := by
  refine (takeWhile rfl).bind fun lo => (accept (by decide)).bind fun comma => ?_
  have hclosed := fun hi : Text => (accept (c := '\x7d') (by decide)).bind
    fun closed => returns (lo, hi, closed)
  exact branch (fun _ => (takeWhile rfl).bind hclosed) fun _ => (returns _).bind hclosed

/-- Reading bounds.  Where there are none, what was read is given back; if no closing bracket was
left after it, none is left before it. -/
theorem readBounds? : Follows Reading.readBounds? Reading.readBounds? := by
  rw [Reading.readBounds?_eq]
  refine looks fun mode s s' hs => ?_
  have hbounds : FollowsAt (fun _ => False) mode s s'
      (do
        let (lo, hi, closed) ← Reading.readBoundTexts
        if closed then Reading.boundsOf s.source.pos lo hi
        else
          set s
          return none)
      (do
        let (lo, hi, closed) ← Reading.readBoundTexts
        if closed then Reading.boundsOf s'.source.pos lo hi
        else
          set s'
          return none) := by
    rcases readBoundTexts mode s s' hs with
      ⟨⟨lo, hi, closed⟩, t, t', ht, ht', halong, hle, hle'⟩ | ⟨hfail, hstuck⟩
    · cases closed with
      | true => exact .after ht ht' hle hle' (boundsOf _ _ lo hi mode t t' halong)
      | false =>
          refine .inStep (a := none) ?_ ?_ hs (Nat.le_refl _) (Nat.le_refl _)
          · rw [Reading.bind_of_eq_ok ht]
            rfl
          · rw [Reading.bind_of_eq_ok ht']
            rfl
    · refine Or.inr ⟨fun a t h => ?_, fun a u' h => ?_⟩
      · obtain ⟨r, t, ht, -⟩ := Reading.bind_eq_ok_iff.mp h
        exact hfail r t ht
      · obtain ⟨⟨lo, hi, closed⟩, t', ht', hu'⟩ := Reading.bind_eq_ok_iff.mp h
        obtain ⟨hstuck', hle'⟩ := hstuck _ t' ht'
        cases closed with
        | true =>
            obtain ⟨hstuck₁, hle₁⟩ := (boundsOf s'.source.pos _ lo hi).keeps t' hstuck' a u' hu'
            exact ⟨hstuck₁, Nat.le_trans hle₁ hle'⟩
        | false =>
            cases hu'
            exact ⟨(Reading.readsOver_of_readBoundTexts ht').stuck hstuck', Nat.le_refl _⟩
  refine .peek_bind hs (fun dangling => ?_) hbounds fun t ts hts => ?_
  · cases dangling <;> simp [closingToken]
  · exact .branch (fun _ => .returns hs _) fun _ => hbounds

end Follows

/-! ## Flags -/

namespace Reading

theorem notAFlag_fails {α : Type} (t : Token) (missing : Complaint) :
    Fails (notAFlag t missing : Reading α) :=
  Fails.failBack _ _

/-- One round of reading flags.  Flags that are turned on and flags that are turned off differ in
which are refused, in what ends them, and in the complaints. -/
def flagRound {α : Type} (refused : Flags → Flags → Bool) (locale complaint missing : Complaint)
    (ends : Token → Prop) [DecidablePred ends] (result : Flags → Token → α) :
    FlagLetter × Flags → (FlagLetter × Flags → Reading α) → Reading α
  | (.locale, _), _ => failBack 0 locale
  | (.flag f, sofar), next => do
    if refused f (sofar.union f) then failBack 0 complaint
    match ← nextToken with
    | none => failBack 0 missing
    | some t =>
      if ends t then return result (sofar.union f) t
      match t.flag? with
      | some g => next (g, sofar.union f)
      | none => notAFlag t missing

/-- One round of reading flags that are turned on. -/
def flagsOnRound : FlagLetter × Flags → (FlagLetter × Flags → Reading (Flags × Token)) →
    Reading (Flags × Token) :=
  flagRound (fun f on => (f.ascii || f.unicode) && on.ascii && on.unicode) .localeFlag
    .incompatibleFlags .missingFlagEnd (fun t => t = .plain ')' || t = .plain '-' || t = .plain ':')
    Prod.mk

/-- One round of reading flags that are turned off. -/
def flagsOffRound : FlagLetter × Flags → (FlagLetter × Flags → Reading Flags) → Reading Flags :=
  flagRound (fun f _ => f.ascii || f.unicode) .alphabetFlagOff .alphabetFlagOff .missingColon
    (fun t => t = .plain ':') fun off _ => off

theorem readFlagsOn_succ (n : Nat) (i : FlagLetter × Flags) :
    readFlagsOn (n + 1) i.1 i.2 = flagsOnRound i fun j => readFlagsOn n j.1 j.2 := by
  obtain ⟨letter, on⟩ := i
  cases letter <;> rfl

theorem readFlagsOff_succ (n : Nat) (i : FlagLetter × Flags) :
    readFlagsOff (n + 1) i.1 i.2 = flagsOffRound i fun j => readFlagsOff n j.1 j.2 := by
  obtain ⟨letter, off⟩ := i
  cases letter <;> rfl

/-- What is made of flags that were turned on and off. -/
def settleFlags (on off : Flags) : Reading (Option (Flags × Flags)) := do
  if off.template then failBack 1 .globalFlagOff
  if on.meets off then failBack 1 .flagOnAndOff
  return some (on, off)

/-- What comes after the flags that are turned on. -/
def afterFlagsOn (fuel : Nat) (on : Flags) (terminator : Token) :
    Reading (Option (Flags × Flags)) := do
  if terminator = .plain ')' then
    modify fun s => { s with flags := s.flags.union on }
    return none
  if on.template then failBack 1 .globalFlagOn
  let off ←
    if terminator = .plain '-' then
      match ← nextToken with
      | none => failBack 0 .missingFlag
      | some t =>
        match t.flag? with
        | some f => readFlagsOff fuel f {}
        | none => notAFlag t .missingFlag
    else pure {}
  settleFlags on off

theorem readFlags_eq (first : Token) :
    readFlags first = (do
      let fuel := (← get).source.rest.length + 1
      match first.flag? with
      | some f =>
        let (on, terminator) ← readFlagsOn fuel f {}
        afterFlagsOn fuel on terminator
      | none => afterFlagsOn fuel {} first) := by
  unfold readFlags
  refine bind_congr fun s => ?_
  cases first.flag? <;> rfl

end Reading

namespace FollowsBelow

variable {α : Type} {k k' : Nat}

theorem flagRound {refused : Flags → Flags → Bool} {locale complaint missing : Complaint}
    {ends : Token → Prop} [DecidablePred ends] {result : Flags → Token → α}
    {next next' : FlagLetter × Flags → Reading α}
    (hnext : ∀ i, FollowsBelow k k' (next i) (next' i)) (i : FlagLetter × Flags) :
    FollowsBelow (k + 1) (k' + 1)
      (Reading.flagRound refused locale complaint missing ends result i next)
      (Reading.flagRound refused locale complaint missing ends result i next') := by
  obtain ⟨letter, sofar⟩ := i
  cases letter with
  | locale => exact (Follows.of_fails (.failBack _ _) (.failBack _ _)).below _ _
  | flag f =>
      refine checked (.failBack _ _) (.failBack _ _) ?_
      refine nextToken_bind (.failBack _ _) (.failBack _ _) fun t => ?_
      refine branch (fun _ => (Follows.returns _).below _ _) fun _ => ?_
      cases t.flag? with
      | some g => exact hnext _
      | none =>
          have hbad := Reading.notAFlag_fails (α := α) t missing
          exact (Follows.of_fails hbad hbad).below _ _

theorem readFlagsOn (n n' : Nat) (letter : FlagLetter) (on : Flags) :
    FollowsBelow n n' (Reading.readFlagsOn n letter on) (Reading.readFlagsOn n' letter on) := by
  have hzero : ∀ i : FlagLetter × Flags, Fails (Reading.readFlagsOn 0 i.1 i.2) :=
    fun i => by cases i.1 <;> exact .failBack _ _
  exact loop (fun n i => Reading.readFlagsOn n i.1 i.2) (fun n i => Reading.readFlagsOn n i.1 i.2)
    hzero Reading.readFlagsOn_succ Reading.readFlagsOn_succ flagRound n n' (letter, on)

theorem readFlagsOff (n n' : Nat) (letter : FlagLetter) (off : Flags) :
    FollowsBelow n n' (Reading.readFlagsOff n letter off) (Reading.readFlagsOff n' letter off) := by
  have hzero : ∀ i : FlagLetter × Flags, Fails (Reading.readFlagsOff 0 i.1 i.2) :=
    fun i => by cases i.1 <;> exact .failBack _ _
  exact loop (fun n i => Reading.readFlagsOff n i.1 i.2) (fun n i => Reading.readFlagsOff n i.1 i.2)
    hzero Reading.readFlagsOff_succ Reading.readFlagsOff_succ flagRound n n' (letter, off)

theorem settleFlags (on off : Flags) :
    FollowsBelow k k' (Reading.settleFlags on off) (Reading.settleFlags on off) := by
  refine checked (.failBack _ _) (.failBack _ _) ?_
  exact checked (.failBack _ _) (.failBack _ _) ((Follows.returns _).below _ _)

/-- What comes after the flags that are turned on, if these are not for the whole pattern. -/
theorem afterFlagsOn (on : Flags) {terminator : Token} (hterminator : terminator ≠ .plain ')') :
    FollowsBelow k k' (Reading.afterFlagsOn k on terminator)
      (Reading.afterFlagsOn k' on terminator) := by
  refine branch (fun h => absurd h hterminator) fun _ => ?_
  refine checked (.failBack _ _) (.failBack _ _) ?_
  refine branch (fun _ => ?_) fun _ => settleFlags on {}
  refine (nextToken_bind (Fails.bind (.failBack _ _)) (Fails.bind (.failBack _ _)) ?_).of_succ
  intro t
  dsimp only
  cases t.flag? with
  | some f => exact (readFlagsOff _ _ f _).bind (settleFlags on)
  | none =>
      have hbad := Reading.notAFlag_fails (α := Flags) t .missingFlag
      exact (Follows.of_fails hbad.bind hbad.bind).below _ _

end FollowsBelow

end TextShell
