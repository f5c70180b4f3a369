import TextShell.Proofs.Pattern.Elements

/-!
# The start of a pattern

Flags for the whole pattern are taken as long as nothing else was read.  Every other element leaves
something behind, a part, an alternative or an open bracket (`Occupies`), so what comes before such
flags is other flags and comments, and the pattern opens with flags (`Reading.readElement_atStart`).
Inside of a bracket they are refused wherever they stand (`Reading.openFlags_ne_ok`).

## Main Definitions

* `Occupies` — a computation after which something was read that is neither a comment nor flags
* `OpensWithFlags` — flags for the whole pattern come first, perhaps after comments
-/

namespace TextShell

/-- A computation after which something has been read that is neither a comment nor flags. -/
def Occupies {α : Type} (m : Reading α) : Prop :=
  ∀ s a t, m s = .ok (a, t) → ¬t.AtStart

namespace Occupies

variable {α β : Type} {m k : Reading α} {f : α → Reading β}

theorem of_fails (h : Fails m) : Occupies m :=
  fun s a t ht => absurd ht (h s a t)

theorem bind (hf : ∀ a, Occupies (f a)) : Occupies (m >>= f) := by
  intro s b u hu
  obtain ⟨a, t, -, hu⟩ := Reading.bind_eq_ok_iff.mp hu
  exact hf a t b u hu

theorem branch {c : Prop} [Decidable c] (h : Occupies m) (h' : Occupies k) :
    Occupies (if c then m else k) := by
  by_cases hc : c
  · rwa [if_pos hc]
  · rwa [if_neg hc]

/-! ## Parts -/

theorem addPart (part : Part) : Occupies (Reading.addPart part) := by
  rintro s a t ⟨⟩ ⟨-, -, hparts⟩
  exact List.cons_ne_nil _ _ hparts

theorem add (p : Pattern) : Occupies (Reading.add p) :=
  addPart _

theorem addAnchor (a : Anchor) : Occupies (Reading.addAnchor a) :=
  addPart _

theorem addEscaped (p : Pattern) : Occupies (Reading.addEscaped p) := by
  unfold Reading.addEscaped
  split
  · exact addAnchor _
  · exact add _

theorem quantify (start least : Nat) (most : Option Nat) :
    Occupies (Reading.quantify start least most) := by
  refine bind fun s => ?_
  split
  · exact of_fails (.failAt _ _)
  split
  · exact of_fails (.failAt _ _)
  · exact of_fails (.failAt _ _)
  have hparts : ∀ part parts, Occupies (modify fun s =>
      { s with level := { s.level with parts := part :: parts } } : Reading Unit) := by
    rintro part parts s a t ⟨⟩ ⟨-, -, hparts⟩
    exact List.cons_ne_nil _ _ hparts
  refine bind fun lazily => ?_
  exact branch (bind fun _ => hparts _ _) (bind fun _ => hparts _ _)

/-! ## Brackets -/

theorem enter (start : Nat) (opener : Opener) (verbose : Bool) :
    Occupies (Reading.enter start opener verbose) := by
  rintro s a t ⟨⟩ ⟨hbrackets, -, -⟩
  exact List.cons_ne_nil _ _ hbrackets

theorem enterAlike (start : Nat) (opener : Opener) : Occupies (Reading.enterAlike start opener) :=
  bind fun _ => enter _ _ _

theorem openCapture (start : Nat) (name : Option Text) :
    Occupies (Reading.openCapture start name) := by
  refine bind fun s => ?_
  have hopens : Occupies (do
      set { s with groups := s.groups.open name }
      Reading.enterAlike start (.capture s.groups.next)) :=
    bind fun _ => enterAlike _ _
  cases name with
  | none => exact hopens
  | some name =>
      dsimp only
      cases s.groups.names.lookup name with
      | none => exact hopens
      | some old => exact of_fails (Fails.failBack _ _).bind

theorem openNamed (start : Nat) : Occupies (Reading.openNamed start) := by
  refine bind fun angle => branch ?_ (bind fun equals => branch ?_ (bind fun t => ?_))
  · exact bind fun name => bind fun _ => openCapture _ _
  · refine bind fun name => bind fun _ => bind fun g => bind fun s => ?_
    exact branch (of_fails (Fails.failBack _ _).bind) (bind fun _ => add _)
  · cases t <;> exact of_fails (.failBack _ _)

theorem openBehind (start : Nat) : Occupies (Reading.openBehind start) := by
  refine bind fun t => ?_
  cases t with
  | none => exact of_fails (.failBack _ _)
  | some t =>
      refine branch (bind fun s => ?_) (of_fails (.failBack _ _))
      exact bind fun _ => enterAlike _ _

theorem openCondition (start : Nat) : Occupies (Reading.openCondition start) := by
  refine bind fun name => bind fun g => bind fun s => ?_
  cases s.bound with
  | none => exact enterAlike _ _
  | some bound =>
      refine branch (of_fails (Fails.failBack _ _).bind) ?_
      exact branch (of_fails (Fails.failBack _ _).bind) (enterAlike _ _)

theorem addGroup (inside : Level) (groups : Groups) (opener : Opener) :
    Occupies (Reading.addGroup inside groups opener) := by
  cases opener with
  | behind negated bound => exact bind fun _ => add _
  | capture g => exact bind fun _ => add _
  | _ => exact add _

theorem endGroup (b : Bracket) : Occupies (Reading.endGroup b) := by
  rw [Reading.endGroup_eq]
  exact bind fun s => bind fun _ => addGroup _ _ _

theorem endAlternative : Occupies Reading.endAlternative := by
  refine bind fun s => ?_
  split
  · refine bind fun _ => ?_
    rintro s a t ⟨⟩ ⟨hbrackets, -, -⟩
    exact List.cons_ne_nil _ _ hbrackets
  · exact of_fails (.failBack _ _)
  · refine bind fun _ => ?_
    rintro s a t ⟨⟩ ⟨-, hfinished, -⟩
    exact List.cons_ne_nil _ _ hfinished

end Occupies

/-! ## What may come before everything else -/

/-- Flags for the whole pattern come first, perhaps after comments. -/
inductive OpensWithFlags : List Token → Prop
  | flags {ts : List Token} (h : ChoosesFlags ts) :
      OpensWithFlags (.plain '(' :: .plain '?' :: ts)
  | comment {text rest : List Token} (htext : .plain ')' ∉ text) (h : OpensWithFlags rest) :
      OpensWithFlags (.plain '(' :: .plain '?' :: .plain '#' :: (text ++ .plain ')' :: rest))

theorem OpensWithFlags.exists_eq_cons {ts : List Token} (h : OpensWithFlags ts) :
    ∃ rest, ts = .plain '(' :: rest := by
  cases h with
  | flags h => exact ⟨_, rfl⟩
  | comment htext h => exact ⟨_, rfl⟩

namespace Reading

variable {s u : ReadState} {a : Unit} {start : Nat}

theorem openComment_eq_ok (h : openComment start s = .ok (a, u)) :
    ∃ source text, u = { s with source := source } ∧
      s.source.rest = text ++ .plain ')' :: source.rest ∧ .plain ')' ∉ text := by
  cases hsplit : splitAtPlain ')' s.source.rest with
  | none => exact absurd h (openComment_ne_ok hsplit a u)
  | some r =>
      obtain ⟨before, after⟩ := r
      rw [openComment_of_split hsplit] at h
      obtain ⟨x, v, hv, hu⟩ := bind_eq_ok_iff.mp h
      cases hu
      obtain ⟨hrest, hbefore⟩ := splitAtPlain_eq_some hsplit
      exact ⟨_, before, eq_of_moveTo hv, hrest, hbefore⟩

/-- Flags leave the start of the pattern if they are for the whole. -/
theorem openFlags_atStart {first : Token} (hfirst : first ≠ .plain ')')
    (h : openFlags start first s = .ok (a, u)) (hu : u.AtStart) :
    s.AtStart ∧ ChoosesFlags (first :: s.source.rest) := by
  rw [openFlags_eq_readFlags_bind] at h
  obtain ⟨r, v, hv, hsettle⟩ := bind_eq_ok_iff.mp h
  cases r with
  | some r => exact absurd hu (Occupies.bind (fun _ => .enter _ _ _) _ _ _ hsettle)
  | none =>
      obtain ⟨source, flags, rfl, hflags⟩ := readFlags_eq_none hfirst hv
      exact ⟨(settleGlobalFlags_eq_ok hsettle).1, hflags⟩

/-- What a question mark announces leaves the start of the pattern only if it is neither flags for
the whole nor a comment. -/
theorem openExtension_atStart {t : Token} (h : openExtension start (some t) s = .ok (a, u))
    (hu : u.AtStart) :
    s.AtStart ∧ (ChoosesFlags (t :: s.source.rest) ∨
      ∃ text, t :: s.source.rest = .plain '#' :: (text ++ .plain ')' :: u.source.rest) ∧
        .plain ')' ∉ text) := by
  generalize heq : some t = x at h
  unfold openExtension at h
  split at h
  · cases heq
  · exact absurd hu (Occupies.openNamed _ _ _ _ h)
  · exact absurd hu (Occupies.enterAlike _ _ _ _ _ h)
  · obtain ⟨source, text, rfl, hrest, htext⟩ := openComment_eq_ok h
    obtain rfl := Option.some.inj heq
    exact ⟨hu, Or.inr ⟨text, by rw [hrest], htext⟩⟩
  · exact absurd hu (Occupies.enterAlike _ _ _ _ _ h)
  · exact absurd hu (Occupies.enterAlike _ _ _ _ _ h)
  · exact absurd hu (Occupies.openBehind _ _ _ _ h)
  · exact absurd hu (Occupies.openCondition _ _ _ _ h)
  · exact absurd hu (Occupies.enterAlike _ _ _ _ _ h)
  · obtain rfl := Option.some.inj heq
    split at h
    · rename_i hflag
      have ht : t ≠ .plain ')' := by
        rintro rfl
        simp [Token.flag?, flagOf?] at hflag
      obtain ⟨hstart, hflags⟩ := openFlags_atStart ht h hu
      exact ⟨hstart, Or.inl hflags⟩
    · exact absurd h (Fails.failBack _ _ _ _ _)

theorem openGroup_atStart (h : openGroup start s = .ok (a, u)) (hu : u.AtStart) :
    s.AtStart ∧ ∃ ts, s.source.rest = .plain '?' :: ts ∧ (ChoosesFlags ts ∨
      ∃ text, ts = .plain '#' :: (text ++ .plain ')' :: u.source.rest) ∧ .plain ')' ∉ text) := by
  rw [openGroup_eq] at h
  obtain ⟨b, v, hv, hopen⟩ := bind_eq_ok_iff.mp h
  rcases accept_eq_ok hv with ⟨rfl, -⟩ | ⟨source, rfl, hcons, rfl⟩
  · have hcapture : openCapture start none v = .ok (a, u) := hopen
    exact absurd hu (Occupies.openCapture _ _ _ _ _ hcapture)
  · obtain ⟨x, w, hw, hextension⟩ := bind_eq_ok_iff.mp hopen
    rcases nextToken_eq_ok hw with ⟨-, rfl, -⟩ | ⟨t, source', hcons', rfl, rfl⟩
    · exact absurd hextension (Fails.failBack _ _ _ _ _)
    · obtain ⟨hstart, hts⟩ := openExtension_atStart hextension hu
      exact ⟨hstart, source.rest, hcons, hcons' ▸ hts⟩

/-- What any other character begins is no comment and turns no flags on. -/
theorem readFrom_atStart {t : Token} (h : readFrom start t s = .ok (a, u)) (hu : u.AtStart) :
    t = .plain '(' ∧ openGroup start s = .ok (a, u) := by
  unfold readFrom at h
  split at h
  · exact absurd hu (Occupies.bind (fun _ => .addEscaped _) _ _ _ h)
  · exact absurd hu (Occupies.bind (fun _ => .add _) _ _ _ h)
  · exact absurd hu (Occupies.quantify _ _ _ _ _ _ h)
  · exact absurd hu (Occupies.quantify _ _ _ _ _ _ h)
  · exact absurd hu (Occupies.quantify _ _ _ _ _ _ h)
  · refine absurd hu (Occupies.bind (fun bounds => ?_) _ _ _ h)
    cases bounds with
    | some bounds => exact .quantify _ _ _
    | none => exact .add _
  · exact absurd hu (Occupies.add _ _ _ _ h)
  · exact ⟨rfl, h⟩
  · exact absurd hu (Occupies.addAnchor _ _ _ _ h)
  · exact absurd hu (Occupies.addAnchor _ _ _ _ h)
  · exact absurd hu (Occupies.add _ _ _ _ h)

theorem brackets_of_skipLine (h : skipLine s = .ok (a, u)) : u.brackets = s.brackets := by
  cases hsplit : splitAtPlain '\n' s.source.rest with
  | none => exact (skipLine_eq_ok hsplit h).2
  | some r =>
      rw [skipLine_of_split hsplit] at h
      rw [eq_of_moveTo h]

/-- Only comments and flags for the whole pattern leave it at its start. -/
theorem readElement_atStart {t : Token} {ts : List Token} (hs : s.source.rest = t :: ts)
    (hverbose : s.level.verbose = true → s.brackets ≠ []) (h : readElement t s = .ok (a, u))
    (hu : u.AtStart) :
    s.AtStart ∧ (OpensWithFlags u.source.rest → OpensWithFlags s.source.rest) := by
  by_cases hbar : t = .plain '|'
  · subst hbar
    rw [readElement_bar] at h
    exact absurd hu (Occupies.endAlternative _ _ _ h)
  by_cases hclose : t = .plain ')' ∧ s.brackets ≠ []
  · obtain ⟨rfl, hne⟩ := hclose
    obtain ⟨b, bs, hb⟩ := List.exists_cons_of_ne_nil hne
    rw [readElement_close hb] at h
    exact absurd hu (Occupies.bind (fun _ => .endGroup b) _ _ _ h)
  rw [readElement_other hbar (by simpa using hclose)] at h
  obtain ⟨x, v, hv, hother⟩ := bind_eq_ok_iff.mp h
  rcases nextToken_eq_ok hv with ⟨hnil, -, -⟩ | ⟨t₁, source, hcons, -, rfl⟩
  · simp [hs] at hnil
  obtain rfl : t = t₁ := (List.cons.inj (hs.symm.trans hcons)).1
  by_cases hskipped : (s.level.verbose && isSkipped t) = true
  · rw [readOther, if_pos hskipped] at hother
    cases hother
    exact absurd hu.1 (hverbose (Bool.and_eq_true_iff.mp hskipped).1)
  by_cases hcomment : (s.level.verbose && decide (t = .plain '#')) = true
  · rw [readOther, if_neg hskipped, if_pos hcomment] at hother
    have hnil := hu.1
    rw [brackets_of_skipLine hother] at hnil
    exact absurd hnil (hverbose (Bool.and_eq_true_iff.mp hcomment).1)
  · rw [readOther, if_neg hskipped, if_neg hcomment] at hother
    obtain ⟨rfl, hopen⟩ := readFrom_atStart hother hu
    obtain ⟨hstart, ts, hts, hflags⟩ := openGroup_atStart hopen hu
    have hrest : s.source.rest = .plain '(' :: .plain '?' :: ts := by rw [hcons, ← hts]
    refine ⟨hstart, fun hopens => ?_⟩
    rw [hrest]
    rcases hflags with hflags | ⟨text, rfl, htext⟩
    · exact .flags hflags
    · exact .comment htext hopens

end Reading

/-! ## Flags inside of a bracket

Flags for the whole pattern are refused wherever a bracket is open, also where nothing but comments
stands between the two. -/

/-- A list is cut in one way before the first element that fails a test. -/
theorem append_cons_inj {α : Type} {P : α → Prop} {l l' r r' : List α} {x y : α}
    (h : l ++ x :: r = l' ++ y :: r') (hl : ∀ a ∈ l, P a) (hl' : ∀ a ∈ l', P a) (hx : ¬P x)
    (hy : ¬P y) : x = y ∧ r = r' := by
  induction l generalizing l' with
  | nil =>
      cases l' with
      | nil => exact List.cons.inj h
      | cons b l' => exact absurd ((List.cons.inj h).1 ▸ hl' b List.mem_cons_self) hx
  | cons a l ih =>
      cases l' with
      | nil => exact absurd ((List.cons.inj h).1 ▸ hl a List.mem_cons_self) hy
      | cons b l' =>
          exact ih (List.cons.inj h).2 (fun c hc => hl c (List.mem_cons_of_mem a hc))
            fun c hc => hl' c (List.mem_cons_of_mem b hc)

namespace Reading

variable {s u : ReadState} {a : Unit} {start : Nat}

theorem openFlags_ne_ok {first : Token} (h : ChoosesFlags (first :: s.source.rest))
    (hs : s.brackets ≠ []) : openFlags start first s ≠ .ok (a, u) := by
  intro hu
  obtain ⟨letters, rest, hletters, hne, hflags⟩ := h
  obtain ⟨letter, letters, rfl⟩ := List.exists_cons_of_ne_nil hne
  obtain ⟨rfl, hrest⟩ := List.cons.inj hletters
  obtain ⟨f, hf⟩ := Option.isSome_iff_exists.mp (hflags first List.mem_cons_self)
  rw [openFlags_eq] at hu
  obtain ⟨s₁, v, hv, hu⟩ := bind_eq_ok_iff.mp hu
  cases hv
  rw [hf] at hu
  obtain ⟨⟨on, terminator⟩, w, hw, hu⟩ := bind_eq_ok_iff.mp hu
  obtain ⟨source, letters', rfl, hrest', hflags', hlast⟩ := readFlagsOn_eq_ok hw
  have hterminator : .plain ')' = terminator :=
    (append_cons_inj (P := fun t => t.flag?.isSome = true) (hrest.symm.trans hrest')
      (fun t ht => hflags t (List.mem_cons_of_mem _ ht)) hflags' (by decide) (by simp [hlast])).1
  exact hs (openFlagged_eq_ok hterminator.symm hu).1.1

theorem openExtension_of_flag {t : Token} (h : t.flag?.isSome = true) :
    openExtension start (some t) = openFlags start t := by
  generalize heq : some t = x
  unfold openExtension
  split
  case h_10 =>
    obtain rfl := Option.some.inj heq
    simp [h]
  all_goals cases heq
  all_goals simp [Token.flag?, flagOf?] at h

/-- What comes after an opening bracket and a question mark is read next. -/
theorem openExtension_of_readElement {ts : List Token}
    (hs : s.source.rest = .plain '(' :: .plain '?' :: ts) (hverbose : s.level.verbose = false)
    (h : readElement (.plain '(') s = .ok (a, u)) :
    ∃ start source t, ts = t :: source.rest ∧
      openExtension start (some t) { s with source := source } = .ok (a, u) := by
  rw [readElement_other (t := .plain '(') (by decide) nofun] at h
  obtain ⟨x, v, hv, hother⟩ := bind_eq_ok_iff.mp h
  rcases nextToken_eq_ok hv with ⟨hnil, -, -⟩ | ⟨t₁, source, hcons, -, rfl⟩
  · simp [hs] at hnil
  have hrest : source.rest = .plain '?' :: ts := (List.cons.inj (hcons.symm.trans hs)).2
  rw [readOther, hverbose] at hother
  have hopen : openGroup s.source.pos { s with source := source } = .ok (a, u) := hother
  rw [openGroup_eq] at hopen
  obtain ⟨b, w, hw, hopen⟩ := bind_eq_ok_iff.mp hopen
  rcases accept_eq_ok hw with ⟨-, -, hhead⟩ | ⟨source', rfl, hcons', rfl⟩
  · simp [hrest] at hhead
  · obtain ⟨y, z, hz, hextension⟩ := bind_eq_ok_iff.mp hopen
    rcases nextToken_eq_ok hz with ⟨-, rfl, -⟩ | ⟨t, source'', hcons'', rfl, rfl⟩
    · exact absurd hextension (Fails.failBack _ _ _ _ _)
    · refine ⟨_, source'', t, ?_, hextension⟩
      rw [← hcons'', ← (List.cons.inj (hcons'.symm.trans hrest)).2]

end Reading

end TextShell

