import TextShell.Proofs.Pattern.Openings
import TextShell.Pattern.Reader

/-!
# The elements of an enclosed pattern

One element of a pattern is read alike whether the pattern is enclosed or not
(`FollowsPast.readElement`).  If the readings stay in step, both have fewer tokens left, which
carries the induction over the elements.

A closing bracket closes the innermost bracket of the pattern, which is the same one enclosed.  One
that closes none of its brackets would close the bracket that was put before it, so it is left out
here: reading the pattern alone ends there.

## Main Definitions

* `Reading.addGroup` — what a bracket makes of its inside, once it is closed
* `Reading.readOther` — reads what neither a bar nor a closing bracket begins
-/

namespace TextShell

/-! ## Brackets and bars -/

namespace Pairing.Brackets

variable {mode : Pairing} {bs bs' : List Bracket} {b : Bracket}

/-- The innermost bracket of a pattern is that of the enclosed pattern as well. -/
theorem exists_cons (h : Pairing.enclosed.Brackets (b :: bs) bs') :
    ∃ b' cs', bs' = b' :: cs' ∧ b'.shape = b.shape ∧ Pairing.enclosed.Brackets bs cs' := by
  have hshapes : bs'.map Bracket.shape =
      b.shape :: (bs.map Bracket.shape ++ [enclosingBracket]) := h
  obtain ⟨b', cs', rfl, hshape, hrest⟩ := List.map_eq_cons_iff.mp hshapes
  exact ⟨b', cs', rfl, hshape, hrest⟩

/-- Outside of all brackets of a pattern is the bracket around it. -/
theorem eq_enclosing (h : Pairing.enclosed.Brackets [] bs') :
    ∃ b', bs' = [b'] ∧ b'.shape = enclosingBracket := by
  have hshapes : bs'.map Bracket.shape = [enclosingBracket] := h
  obtain ⟨b', cs', rfl, hshape, hnil⟩ := List.map_eq_cons_iff.mp hshapes
  exact ⟨b', by rw [List.map_eq_nil_iff.mp hnil], hshape⟩

theorem ne_nil (h : Pairing.enclosed.Brackets bs bs') : bs' ≠ [] := by
  rintro rfl
  have hshapes : [] = bs.map Bracket.shape ++ [enclosingBracket] := h
  simp at hshapes

/-- The innermost brackets are of the same kind, or one is that around the pattern. -/
theorem heads (h : mode.Brackets bs bs') :
    (bs = [] ∧ ∃ b', bs' = [b'] ∧ b'.opener = .plain) ∨
      ∃ b cs b' cs', bs = b :: cs ∧ bs' = b' :: cs' ∧ b'.shape = b.shape := by
  cases mode with
  | enclosed =>
      cases bs with
      | nil =>
          obtain ⟨b', rfl, hshape⟩ := eq_enclosing h
          exact Or.inl ⟨rfl, b', rfl, congrArg Prod.fst hshape⟩
      | cons b cs =>
          obtain ⟨b', cs', rfl, hshape, -⟩ := exists_cons h
          exact Or.inr ⟨b, cs, b', cs', rfl, rfl, hshape⟩
  | stuck =>
      obtain ⟨hshapes, hne⟩ := h
      obtain ⟨b, cs, rfl⟩ := List.exists_cons_of_ne_nil hne
      obtain ⟨b', cs', rfl, hshape, -⟩ := List.map_eq_cons_iff.mp hshapes
      exact Or.inr ⟨b, cs, b', cs', rfl, rfl, hshape⟩

/-- The innermost brackets may become others of one kind. -/
theorem replace {b' c c' : Bracket} (h : mode.Brackets (b :: bs) (b' :: bs'))
    (hshape : c'.shape = c.shape) : mode.Brackets (c :: bs) (c' :: bs') := by
  cases mode with
  | enclosed =>
      have hshapes : b'.shape :: bs'.map Bracket.shape =
        b.shape :: (bs.map Bracket.shape ++ [enclosingBracket]) := h
      show c'.shape :: bs'.map Bracket.shape =
        c.shape :: (bs.map Bracket.shape ++ [enclosingBracket])
      rw [hshape, (List.cons.inj hshapes).2]
  | stuck =>
      have hshapes : b'.shape :: bs'.map Bracket.shape = b.shape :: bs.map Bracket.shape := h.1
      refine ⟨?_, List.cons_ne_nil _ _⟩
      rw [List.map_cons, List.map_cons, hshape, (List.cons.inj hshapes).2]

end Pairing.Brackets

namespace Reading

/-- Adds what a closing bracket makes of its inside, which was read when the groups were these. -/
def addGroup (inside : Level) (groups : Groups) : Opener → Reading Unit
  | .plain => add inside.pattern
  | .flagged on off => add (.withFlags on off inside.pattern)
  | .atomic => add (.atomic inside.pattern)
  | .ahead negated => add (.look none negated inside.pattern)
  | .behind negated bound => do
    modify fun s => { s with bound := bound }
    add (.look (some (inside.pattern.width groups.width)) negated inside.pattern)
  | .capture g => do
    modify fun s => { s with groups := s.groups.close g (inside.pattern.width groups.width) }
    add (.group g inside.pattern)
  | .branch g => add (.cond g (.ofList inside.sequence) .empty)
  | .otherBranch g yes => add (.cond g yes (.ofList inside.sequence))

theorem endGroup_eq (b : Bracket) :
    endGroup b = (do
      let s ← get
      set { s with level := b.outer, brackets := s.brackets.tail }
      addGroup s.level s.groups b.opener) := by
  obtain ⟨opener, start, outer⟩ := b
  cases opener <;> rfl

end Reading

namespace Follows

theorem addGroup (inside : Level) (groups : Groups) (opener : Opener) :
    Follows (Reading.addGroup inside groups opener) (Reading.addGroup inside groups opener) := by
  cases opener with
  | plain => exact add _
  | flagged on off => exact add _
  | atomic => exact add _
  | ahead negated => exact add _
  | behind negated bound =>
      refine bind (changes (fun mode s s' hs => ?_) (fun _ => rfl) fun _ => rfl) fun _ => add _
      exact { hs with bound := rfl }
  | capture g =>
      refine bind (changes (fun mode s s' hs => ?_) (fun _ => rfl) fun _ => rfl) fun _ => add _
      exact { hs with groups := by rw [hs.groups] }
  | branch g => exact add _
  | otherBranch g yes => exact add _

theorem addEscaped (p : Pattern) : Follows (Reading.addEscaped p) (Reading.addEscaped p) := by
  unfold Reading.addEscaped
  split
  · exact addAnchor _
  · exact add _

end Follows

namespace FollowsAt

variable {P : ReadState → Prop} {mode : Pairing} {s s' : ReadState}

/-- Closing a bracket of the pattern. -/
theorem endGroup (hs : Alongside .enclosed s s') {b b' : Bracket} {bs bs' : List Bracket}
    (hb : s.brackets = b :: bs) (hb' : s'.brackets = b' :: bs') (hshape : b'.shape = b.shape)
    (hbs : Pairing.enclosed.Brackets bs bs') :
    FollowsAt P .enclosed s s' (Reading.endGroup b) (Reading.endGroup b') := by
  obtain ⟨opener, start, outer⟩ := b
  obtain ⟨opener', start', outer'⟩ := b'
  obtain ⟨rfl, rfl⟩ : opener' = opener ∧ outer' = outer := Prod.mk.inj hshape
  have hleft : Alongside .enclosed { s with level := outer', brackets := s.brackets.tail }
      { s' with level := outer', brackets := s'.brackets.tail } := {
    hs with
    brackets := by
      rw [hb, hb']
      exact hbs
    level := rfl
    bottom := fun hmode => by
      have hbottom := hs.bottom hmode
      unfold ReadState.bottom at hbottom ⊢
      rw [hb, List.getLast?_cons] at hbottom
      rw [hb, List.tail_cons]
      cases hlast : bs.getLast? <;> simpa [hlast] using hbottom }
  rw [Reading.endGroup_eq, Reading.endGroup_eq]
  have hread : Reading.addGroup s'.level s'.groups opener' =
      Reading.addGroup s.level s.groups opener' := by
    rw [hs.level, hs.groups]
  refine looks (.sets_bind (Nat.le_refl _) (Nat.le_refl _) ?_)
  show FollowsAt P .enclosed _ _ (Reading.addGroup s.level s.groups opener')
    (Reading.addGroup s'.level s'.groups opener')
  rw [hread]
  exact (Follows.addGroup _ _ _).along hleft

end FollowsAt

/-- A reading that is stuck in two brackets stays so when one is left. -/
theorem KeepsAt.endGroup {s : ReadState} {b : Bracket} {bs : List Bracket}
    (hb : s.brackets = b :: bs) (hbs : bs ≠ []) : KeepsAt s (Reading.endGroup b) := by
  intro hs a t ht
  rw [Reading.endGroup_eq] at ht
  have hstuck : ReadState.Stuck { s with level := b.outer, brackets := s.brackets.tail } :=
    ⟨hs.1, by simpa [hb] using hbs⟩
  exact (Follows.addGroup s.level s.groups b.opener).keeps _ hstuck a t ht

namespace FollowsPast

/-- A look at states that are in step. -/
theorem looks {α : Type} {P : ReadState → Prop} {mode : Pairing} {s s' : ReadState}
    {f f' : ReadState → Reading α} (h : FollowsPast P mode s s' (f s) (f' s')) :
    FollowsPast P mode s s' (get >>= f) (get >>= f') :=
  h

variable {P : ReadState → Prop} {mode : Pairing} {s s' : ReadState}

/-- Ending the first branch of a condition. -/
theorem endBranch (hs : Alongside mode s s') {t : Token} {ts : List Token}
    (ht : s.source.rest = t :: ts) {g start start' : Nat} {outer : Level} {bs bs' : List Bracket}
    (hb : s.brackets = ⟨.branch g, start, outer⟩ :: bs)
    (hb' : s'.brackets = ⟨.branch g, start', outer⟩ :: bs') :
    FollowsPast P mode s s'
      (do
        let _ ← Reading.nextToken
        modify fun s =>
          { s with
            brackets := ⟨.otherBranch g (.ofList s.level.sequence), start, outer⟩ :: bs
            level := { verbose := s.level.verbose } })
      (do
        let _ ← Reading.nextToken
        modify fun s =>
          { s with
            brackets := ⟨.otherBranch g (.ofList s.level.sequence), start', outer⟩ :: bs'
            level := { verbose := s.level.verbose } }) := by
  refine skipToken_bind hs ht (fun c c' _ hc => ?_) fun c' hc' a v hv => ?_
  · refine Or.inl ⟨(), _, _, rfl, rfl, ?_, Nat.le_refl _, Nat.le_refl _⟩
    exact {
      hc with
      brackets := by
        have hbrackets := hs.brackets
        rw [hb, hb'] at hbrackets
        exact hbrackets.replace (by rw [Bracket.shape, Bracket.shape, hs.level])
      level := by rw [hs.level]
      bottom := fun hmode => by
        have hbottom := hs.bottom hmode
        unfold ReadState.bottom at hbottom ⊢
        rw [hb, List.getLast?_cons] at hbottom
        rw [List.getLast?_cons]
        cases hlast : bs.getLast? <;> simpa [hlast] using hbottom }
  · cases hv
    exact ⟨⟨hc'.1, List.cons_ne_nil _ _⟩, Nat.le_refl _⟩

/-- Ending an alternative at a bar. -/
theorem endAlternative (hs : Alongside mode s s') {t : Token} {ts : List Token}
    (ht : s.source.rest = t :: ts) :
    FollowsPast P mode s s' Reading.endAlternative Reading.endAlternative := by
  have hfinish : FollowsPast P mode s s'
      (do
        let _ ← Reading.nextToken
        modify fun s =>
          { s with level := { s.level with
              finished := s.level.sequence :: s.level.finished, parts := [] } })
      (do
        let _ ← Reading.nextToken
        modify fun s =>
          { s with level := { s.level with
              finished := s.level.sequence :: s.level.finished, parts := [] } }) := by
    refine skipToken hs ht (.changes (fun mode s s' hs => ?_) (fun _ => rfl) fun _ => rfl)
    exact hs.withLevel (by rw [hs.level]) rfl
  have hthird : FollowsPast P mode s s' (Reading.failBack 0 .thirdBranch : Reading Unit)
      (Reading.failBack 0 .thirdBranch) :=
    Or.inr ⟨fun _ _ => nofun, fun _ _ => nofun⟩
  refine looks ?_
  rcases hs.brackets.heads with ⟨hb, b', hb', hplain⟩ | ⟨b, bs, b', bs', hb, hb', hshape⟩
  · rw [hb, hb']
    obtain ⟨opener', start', outer'⟩ := b'
    obtain rfl : opener' = .plain := hplain
    exact hfinish
  · rw [hb, hb']
    obtain ⟨opener, start, outer⟩ := b
    obtain ⟨opener', start', outer'⟩ := b'
    obtain ⟨rfl, rfl⟩ : opener' = opener ∧ outer' = outer := Prod.mk.inj hshape
    cases opener' with
    | branch g => exact endBranch hs ht hb hb'
    | otherBranch g yes => exact hthird
    | _ => exact hfinish

end FollowsPast

namespace FollowsAt

variable {P : ReadState → Prop} {mode : Pairing} {s s' : ReadState}

/-- Reading what a character begins. -/
theorem readFrom (hs : Alongside mode s s') (start start' : Nat) (t : Token) :
    FollowsAt (fun u => u.AtStart ∧ t = .plain '(' ∧
        ∃ ts, s.source.rest = .plain '?' :: ts ∧ ChoosesFlags ts) mode s s'
      (Reading.readFrom start t) (Reading.readFrom start' t) := by
  unfold Reading.readFrom
  split
  · exact ((Follows.readEscape _).bind fun p => .addEscaped p).along hs
  · exact ((Follows.readClassSet _ _).bind fun p => .add p).along hs
  · exact (Follows.quantify _ _ _ _).along hs
  · exact (Follows.quantify _ _ _ _).along hs
  · exact (Follows.quantify _ _ _ _).along hs
  · refine (Follows.readBounds?.bind fun bounds => ?_).along hs
    cases bounds with
    | some bounds => exact Follows.quantify _ _ _ _
    | none => exact Follows.add _
  · exact (Follows.add _).along hs
  · exact (openGroup hs).mono fun u hu => ⟨hu.1, rfl, hu.2⟩
  · exact (Follows.addAnchor _).along hs
  · exact (Follows.addAnchor _).along hs
  · exact (Follows.add _).along hs

end FollowsAt

namespace Reading

variable {s u : ReadState} {before after : List Token}

/-- Reads a comment up to the end of the line. -/
def skipLine : Reading Unit := do
  let _ ← skipThrough '\n'

theorem skipLine_of_split (h : splitAtPlain '\n' s.source.rest = some (before, after)) :
    skipLine s = moveTo after (s.source.pos + (tokensText before).length + 1) s := by
  have hread : skipLine s = (do
      moveTo after (s.source.pos + (tokensText before).length + 1)
      return () : Reading Unit) s := by
    unfold skipLine
    rw [bind_congr_at (skipThrough_of_split h), bind_assoc]
    rfl
  rw [hread, bind_pure_unit]

/-- A comment in the last line takes in all that is left. -/
theorem skipLine_eq_ok (h : splitAtPlain '\n' s.source.rest = none) {a : Unit}
    (hu : skipLine s = .ok (a, u)) : u.source.rest = [] ∧ u.brackets = s.brackets := by
  obtain ⟨found, v, hv, hu⟩ := bind_eq_ok_iff.mp hu
  cases hu
  rw [skipThrough_of_not_split h] at hv
  obtain ⟨x, w, hw, hv⟩ := bind_eq_ok_iff.mp hv
  cases hv
  have hmove : moveTo [] (s.source.pos + (tokensText s.source.rest).length) s = .ok (x, u) := hw
  obtain rfl := eq_of_moveTo hmove
  exact ⟨rfl, rfl⟩

/-- Reads what a token begins that is neither a bar nor a closing bracket, after the token was
read. -/
def readOther (verbose : Bool) (start : Nat) (t : Token) : Reading Unit :=
  if verbose && isSkipped t then pure ()
  else if verbose && t = .plain '#' then skipLine
  else readFrom start t

theorem readElement_bar : readElement (.plain '|') s = endAlternative s := rfl

theorem readElement_eq (t : Token) (s : ReadState) :
    readElement t s = (if t = .plain '|' then endAlternative
      else do
        let _ ← nextToken
        match t, s.brackets with
        | .plain ')', b :: _ => endGroup b
        | _, _ => readOther s.level.verbose s.source.pos t : Reading Unit) s :=
  rfl

theorem readElement_close {b : Bracket} {bs : List Bracket} (h : s.brackets = b :: bs) :
    readElement (.plain ')') s = (nextToken >>= fun _ => endGroup b) s := by
  rw [readElement_eq, h, if_neg (by decide)]
  rfl

theorem readElement_other {t : Token} (hbar : t ≠ .plain '|')
    (hclose : t = .plain ')' → s.brackets = []) :
    readElement t s = (nextToken >>= fun _ => readOther s.level.verbose s.source.pos t) s := by
  rw [readElement_eq, if_neg hbar]
  refine congrFun (bind_congr fun _ => ?_) s
  split
  · rename_i hb
    simp [hclose rfl] at hb
  · rfl

end Reading

namespace FollowsAt

variable {mode : Pairing} {s s' : ReadState}

/-- Reading a comment up to the end of the line.  Such a comment may take in the closing bracket,
but then the pattern alone ends in it as well. -/
theorem skipLine (hs : Alongside mode s s') :
    FollowsAt (fun u => u.source.rest = [] ∧ u.brackets = s.brackets) mode s s' Reading.skipLine
      Reading.skipLine := by
  cases hsplit : splitAtPlain '\n' s.source.rest with
  | some r =>
      obtain ⟨before, after⟩ := r
      obtain ⟨after', hsplit', hsource⟩ := hs.split_of_split hsplit
      unfold FollowsAt
      rw [Reading.skipLine_of_split hsplit, Reading.skipLine_of_split hsplit']
      exact moveTo hs (hsource _ _) (length_le_of_splitAtPlain hsplit)
        (length_le_of_splitAtPlain hsplit')
  | none =>
      have hsplit' : splitAtPlain '\n' s'.source.rest = none := by
        cases mode with
        | enclosed =>
            rw [hs.source.1, splitAtPlain_append_of_none hsplit]
            cases s.source.dangling <;> rfl
        | stuck => rw [hs.source.1, hsplit]
      refine Or.inr ⟨fun a u hu => Reading.skipLine_eq_ok hsplit hu, fun a u' hu' => ?_⟩
      obtain ⟨hnil, hbrackets⟩ := Reading.skipLine_eq_ok hsplit' hu'
      refine ⟨⟨by simp [hnil], hbrackets ▸ hs.brackets_ne_nil⟩, ?_⟩
      rw [ReadState.left, hnil]
      exact Nat.zero_le _

/-- Reading what a token begins that is neither a bar nor a closing bracket. -/
theorem readOther (hs : Alongside mode s s') (start start' : Nat) (t : Token) :
    FollowsAt (fun u => u.source.rest = [] ∧ u.brackets ≠ [] ∨
        u.AtStart ∧ t = .plain '(' ∧ ∃ ts, s.source.rest = .plain '?' :: ts ∧ ChoosesFlags ts)
      mode s s' (Reading.readOther s.level.verbose start t)
      (Reading.readOther s.level.verbose start' t) := by
  refine .branch (fun _ => .returns hs ()) fun _ => .branch (fun hcomment => ?_) fun _ => ?_
  · refine (skipLine hs).mono fun u hu => Or.inl ⟨hu.1, ?_⟩
    rw [hu.2]
    -- outside of all brackets there are no such comments
    intro hbrackets
    cases mode with
    | enclosed =>
        have hbottom := hs.bottom rfl
        simp [ReadState.bottom, hbrackets] at hbottom
        simp [hbottom] at hcomment
    | stuck => exact hs.brackets.2 hbrackets
  · exact (readFrom hs start start' t).mono fun u hu => Or.inr hu

end FollowsAt

theorem KeepsAt.readOther (s : ReadState) (start : Nat) (t : Token) :
    KeepsAt s (Reading.readOther s.level.verbose start t) :=
  FollowsAt.keeps fun hs => .readOther (.of_stuck hs) start start t

/-- Reading an element that is no closing bracket outside of all brackets. -/
theorem FollowsPast.readElement {mode : Pairing} {s s' : ReadState} (hs : Alongside mode s s')
    {t : Token} {ts : List Token} (ht : s.source.rest = t :: ts)
    (hbalanced : t = .plain ')' → s.brackets ≠ []) :
    FollowsPast (fun u => u.source.rest = [] ∧ u.brackets ≠ [] ∨
        u.AtStart ∧ t = .plain '(' ∧ ∃ flags, ts = .plain '?' :: flags ∧ ChoosesFlags flags)
      mode s s' (Reading.readElement t) (Reading.readElement t) := by
  by_cases hbar : t = .plain '|'
  · subst hbar
    unfold FollowsPast
    rw [Reading.readElement_bar, Reading.readElement_bar]
    exact endAlternative hs ht
  by_cases hclose : t = .plain ')'
  · subst hclose
    cases mode with
    | stuck =>
        have hmem : .plain ')' ∈ s.source.rest := by simp [ht]
        exact absurd hmem hs.source.2.2
    | enclosed =>
        obtain ⟨b, bs, hb⟩ := List.exists_cons_of_ne_nil (hbalanced rfl)
        obtain ⟨b', bs', hb', hshape, hbs⟩ := Pairing.Brackets.exists_cons (hb ▸ hs.brackets)
        unfold FollowsPast
        rw [Reading.readElement_close hb, Reading.readElement_close hb']
        exact skipToken_bind hs ht (fun c c' _ hc => .endGroup hc hb hb' hshape hbs)
          fun c' => .endGroup hb' hbs.ne_nil
  · unfold FollowsPast
    rw [Reading.readElement_other hbar fun h => absurd h hclose,
      Reading.readElement_other hbar fun h => absurd h hclose, hs.level]
    refine skipToken_bind hs ht (fun c c' hts hc => ?_) fun c' => ?_
    · rw [hts]
      exact .readOther hc _ _ t
    · rw [← hs.level]
      exact KeepsAt.readOther { s' with source := c' } s'.source.pos t

end TextShell
