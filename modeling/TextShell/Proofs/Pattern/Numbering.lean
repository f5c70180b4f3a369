import TextShell.Proofs.Pattern.Ascending
import TextShell.Proofs.Pattern.Upholding

/-!
# The numbers of groups

Groups are numbered in the order in which they are opened, but a pattern is not built in that order.
A group is added to what stands around it when it is closed, alternatives that begin alike share
their beginning, and the first branch of a condition is kept with its bracket.  All the same the
numbers that stand in the pattern ascend from left to right (`Regex.ascends_of_compile`).

What carries this through the reading is not a statement about the inside of the innermost bracket,
which may be empty in the middle of a pattern.  It is one about all that was built so far: from the
outermost bracket on what stands before it and what it adds, and then the inside of the innermost
one (`Built.groups`).  Most steps of the reader leave all this alone.  The others move it about, and
one adds the number of the group that it opens, which is greater than all before.

## Main Definitions

* `Built.groups` — the groups in what was read
* `Built.Numbered` — they are numbered in order, up to the last one that was opened
-/

namespace TextShell

/-! ## What was built -/

/-- The groups that a bracket adds by itself, before its inside. -/
def Opener.groups : Opener → List Nat
  | .capture g => [g]
  | .otherBranch _ yes => yes.groups
  | _ => []

/-- The groups up to the inside of a bracket, from the one around it on. -/
def Bracket.groups (b : Bracket) : List Nat :=
  b.outer.groups ++ b.opener.groups

namespace Built

/-- The groups in what was read. -/
def groups (b : Built) : List Nat :=
  b.brackets.reverse.flatMap Bracket.groups ++ b.level.groups

/-- **The groups are numbered in the order in which they stand,** up to the last one that was
opened. -/
def Numbered (b : Built) : Prop :=
  Ascends 0 b.groups b.known.widths.length

variable {b : Built}

/-- Moving groups about without a change of their order, or leaving some out. -/
theorem Numbered.of_sublist (h : b.Numbered) {b' : Built} (hsub : b'.groups.Sublist b.groups)
    (hknown : b'.known.widths.length = b.known.widths.length) : b'.Numbered := by
  unfold Numbered
  rw [hknown]
  exact h.sublist hsub

/-- Adding a part that holds no groups. -/
theorem Numbered.add_part (h : b.Numbered) {part : Part} (hpart : part.pattern.groups = []) :
    Numbered { b with level := { b.level with parts := part :: b.level.parts } } := by
  refine h.of_sublist ?_ rfl
  rw [groups, groups, Level.groups_cons_part, hpart, List.append_nil]

/-- Replacing the last part by one with the same groups. -/
theorem Numbered.replace_part (h : b.Numbered) {part part' : Part} {parts : List Part}
    (hparts : b.level.parts = part :: parts) (hpart : part'.pattern.groups = part.pattern.groups) :
    Numbered { b with level := { b.level with parts := part' :: parts } } := by
  refine h.of_sublist ?_ rfl
  rw [groups, groups, Level.groups_replace_part b.level hparts hpart]

theorem Numbered.finish_alternative (h : b.Numbered) :
    Numbered { b with level := { b.level with
      finished := b.level.sequence :: b.level.finished, parts := [] } } := by
  refine h.of_sublist ?_ rfl
  rw [groups, groups, Level.groups_finish]

/-- The groups just inside of a bracket. -/
theorem groups_enter (b : Built) (opener : Opener) (start : Nat) (verbose : Bool) :
    groups { b with
        brackets := ⟨opener, start, b.level⟩ :: b.brackets
        level := { verbose := verbose } } =
      b.groups ++ opener.groups := by
  rw [groups, groups, List.reverse_cons, List.flatMap_append, List.flatMap_singleton,
    Bracket.groups, Level.groups_empty, List.append_nil, List.append_assoc]

/-- Going inside a bracket that adds no group by itself. -/
theorem Numbered.enter (h : b.Numbered) {opener : Opener} (hopener : opener.groups = [])
    (start : Nat) (verbose : Bool) :
    Numbered { b with
      brackets := ⟨opener, start, b.level⟩ :: b.brackets
      level := { verbose := verbose } } := by
  refine h.of_sublist ?_ rfl
  rw [groups_enter, hopener, List.append_nil]

/-- **A group that is opened has a number of its own,** which is greater than all before. -/
theorem Numbered.open_group (h : b.Numbered) (start : Nat) (verbose : Bool) (name : Option Text) :
    Numbered ⟨⟨.capture b.known.next, start, b.level⟩ :: b.brackets, { verbose := verbose },
      b.known.open name⟩ := by
  unfold Numbered
  have hgroups := groups_enter b (.capture b.known.next) start verbose
  show Ascends 0 (groups { b with
    brackets := ⟨.capture b.known.next, start, b.level⟩ :: b.brackets
    level := { verbose := verbose } }) (b.known.widths ++ [none]).length
  rw [hgroups, List.length_append]
  exact h.concat_succ

/-- Going on from the first branch of a condition to the second one. -/
theorem Numbered.second_branch (h : b.Numbered) {g start : Nat} {outer : Level}
    {brackets : List Bracket} (hbrackets : b.brackets = ⟨.branch g, start, outer⟩ :: brackets)
    (verbose : Bool) :
    Numbered { b with
      brackets := ⟨.otherBranch g (.ofList b.level.sequence), start, outer⟩ :: brackets
      level := { verbose := verbose } } := by
  refine h.of_sublist ?_ rfl
  rw [groups, groups, hbrackets, List.reverse_cons, List.reverse_cons, List.flatMap_append,
    List.flatMap_append, List.flatMap_singleton, List.flatMap_singleton, Level.groups_empty,
    List.append_nil, List.append_assoc]
  refine List.Sublist.append_left ?_ _
  show (outer.groups ++ (Pattern.ofList b.level.sequence).groups).Sublist
    ((outer.groups ++ []) ++ b.level.groups)
  rw [Pattern.groups_ofList, List.append_nil, Level.groups_eq b.level]
  exact (List.sublist_append_right _ _).append_left _

/-- Leaving a bracket.  What is added for it holds no other groups than the bracket and its inside,
in this order. -/
theorem Numbered.leave (h : b.Numbered) {bracket : Bracket} {brackets : List Bracket}
    (hbrackets : b.brackets = bracket :: brackets) {p : Pattern}
    (hp : p.groups.Sublist (bracket.opener.groups ++ b.level.groups)) {known : Groups}
    (hknown : known.widths.length = b.known.widths.length) :
    Numbered ⟨b.brackets.tail,
      { bracket.outer with parts := { pattern := p } :: bracket.outer.parts }, known⟩ := by
  refine h.of_sublist ?_ hknown
  rw [groups, groups, Level.groups_cons_part, hbrackets, List.tail_cons, List.reverse_cons,
    List.flatMap_append, List.flatMap_singleton, Bracket.groups, List.append_assoc,
    List.append_assoc]
  exact (hp.append_left _).append_left _

end Built

/-! ## Steps that build -/

namespace Yields

theorem addPart (part : Part) (h : part.pattern.groups = []) :
    Upholds Built.Numbered (Reading.addPart part) :=
  changes fun _ hs => hs.add_part h

theorem add (p : Pattern) (h : p.groups = []) : Upholds Built.Numbered (Reading.add p) :=
  addPart _ h

theorem addAnchor (a : Anchor) : Upholds Built.Numbered (Reading.addAnchor a) :=
  addPart _ rfl

theorem addEscaped (p : Pattern) (h : p.groups = []) :
    Upholds Built.Numbered (Reading.addEscaped p) := by
  unfold Reading.addEscaped
  split
  · exact addAnchor _
  · exact add _ h

/-- What keeps every property leaves alone what was built. -/
theorem leaves {α : Type} {Q : α → Prop} {m : Reading α} (h : ∀ I, Yields I Q m)
    {s t : ReadState} {a : α} (ht : m s = .ok (a, t)) : t.built = s.built :=
  (h (· = s.built) s a t rfl ht).1

/-- A repetition holds the groups of what it repeats. -/
theorem quantify (start least : Nat) (most : Option Nat) :
    Upholds Built.Numbered (Reading.quantify start least most) := by
  intro s a t hs ht
  obtain ⟨s₁, u, hu, ht⟩ := Reading.bind_eq_ok_iff.mp ht
  cases hu
  cases hparts : s.level.parts with
  | nil =>
      rw [hparts] at ht
      exact absurd ht (Fails.failAt _ _ _ _ _)
  | cons part parts =>
      obtain ⟨p, quantifiable⟩ := part
      rw [hparts] at ht
      cases quantifiable with
      | anchor => exact absurd ht (Fails.failAt _ _ _ _ _)
      | repeated => exact absurd ht (Fails.failAt _ _ _ _ _)
      | yes =>
          -- the state that is changed in the end holds the same parts
          have hrepeated (greed : Greed) {u : ReadState} (hu : u.built = s.built) :
              (ReadState.built { u with level := { u.level with
                parts := ⟨.iterate greed least most p, .repeated⟩ :: parts } }).Numbered := by
            have hlevel : u.built.level.parts = ⟨p, .yes⟩ :: parts := by
              rw [hu]
              exact hparts
            exact Built.Numbered.replace_part (hu ▸ hs) hlevel rfl
          obtain ⟨lazily, u, hu, ht⟩ := Reading.bind_eq_ok_iff.mp ht
          have hleft : u.built = s.built := leaves (fun _ => accept _) hu
          cases lazily with
          | true =>
              cases ht
              exact ⟨hrepeated _ hleft, trivial⟩
          | false =>
              obtain ⟨possessive, v, hv, ht⟩ := Reading.bind_eq_ok_iff.mp ht
              cases ht
              exact ⟨hrepeated _ ((leaves (fun _ => accept _) hv).trans hleft), trivial⟩

theorem enter (start : Nat) (opener : Opener) (verbose : Bool) (h : opener.groups = []) :
    Upholds Built.Numbered (Reading.enter start opener verbose) :=
  changes fun _ hs => hs.enter h start verbose

theorem enterAlike (start : Nat) (opener : Opener) (h : opener.groups = []) :
    Upholds Built.Numbered (Reading.enterAlike start opener) :=
  looks fun _ _ => enter _ _ _ h

theorem openCapture (start : Nat) (name : Option Text) :
    Upholds Built.Numbered (Reading.openCapture start name) := by
  intro s a t hs ht
  obtain ⟨s₁, u, hu, ht⟩ := Reading.bind_eq_ok_iff.mp ht
  cases hu
  have hopens {a : Unit} {t : ReadState}
      (h : (do
        set { s with groups := s.groups.open name }
        Reading.enterAlike start (.capture s.groups.next) : Reading Unit) s = .ok (a, t)) :
      t.built.Numbered := by
    cases h
    exact hs.open_group start s.level.verbose name
  cases name with
  | none => exact ⟨hopens ht, trivial⟩
  | some name =>
      dsimp only at ht
      cases hlookup : s.groups.names.lookup name with
      | none =>
          rw [hlookup] at ht
          exact ⟨hopens ht, trivial⟩
      | some old =>
          rw [hlookup] at ht
          exact absurd ht (Fails.bind (.failBack _ _) _ _ _)

theorem openNamed (start : Nat) : Upholds Built.Numbered (Reading.openNamed start) := by
  refine (accept _).andThen fun angle => branch (fun _ => ?_) fun _ => ?_
  · refine (readName _ _).andThen fun name => ?_
    exact (checkGroupName name).andThen fun _ => openCapture _ _
  · refine (accept _).andThen fun equals => branch (fun _ => ?_) fun _ => ?_
    · refine (readName _ _).andThen fun name => (checkGroupName name).andThen fun _ => ?_
      refine (groupNamed name).andThen fun g => looks fun s _ => checked (.failBack _ _) ?_
      exact (openNamedBound g).andThen fun _ => add _ rfl
    · refine of_fails (Fails.bind_right fun next => ?_)
      cases next <;> exact .failBack _ _

theorem openBehind (start : Nat) : Upholds Built.Numbered (Reading.openBehind start) := by
  refine nextToken.andThen fun next => ?_
  cases next with
  | none => exact of_fails (.failBack _ _)
  | some t =>
      refine branch (fun _ => looks fun s hs => ?_) fun _ => of_fails (.failBack _ _)
      exact andThen (sets hs) fun _ => enterAlike _ _ rfl

theorem openCondition (start : Nat) : Upholds Built.Numbered (Reading.openCondition start) := by
  refine (readName _ _).andThen fun name => (conditionGroup name).andThen fun g => ?_
  refine looks fun s _ => ?_
  cases s.bound with
  | none => exact enterAlike _ _ rfl
  | some bound => exact checked (.failBack _ _) (checked (.failBack _ _) (enterAlike _ _ rfl))

theorem openFlags (start : Nat) (first : Token) :
    Upholds Built.Numbered (Reading.openFlags start first) := by
  refine (readFlags first).andThen fun r => ?_
  cases r with
  | some r => exact looks fun _ _ => enter _ _ _ rfl
  | none => exact looks fun s hs => checked (.failAt _ _) (sets hs)

theorem openGroup (start : Nat) : Upholds Built.Numbered (Reading.openGroup start) := by
  refine (accept _).andThen fun question => branch (fun _ => openCapture _ _) fun _ => ?_
  refine nextToken.andThen fun next => ?_
  split
  · exact of_fails (.failBack _ _)
  · exact openNamed _
  · exact enterAlike _ _ rfl
  · exact (skipThrough _).andThen fun _ => check (.failAt _ _) (returns trivial)
  · exact enterAlike _ _ rfl
  · exact enterAlike _ _ rfl
  · exact openBehind _
  · exact openCondition _
  · exact enterAlike _ _ rfl
  · exact branch (fun _ => openFlags _ _) fun _ => of_fails (.failBack _ _)

theorem endAlternative : Upholds Built.Numbered Reading.endAlternative := by
  intro s a t hs ht
  obtain ⟨s₁, u, hu, ht⟩ := Reading.bind_eq_ok_iff.mp ht
  cases hu
  -- the token that is read changes nothing of what is ended
  have hfinish {t : ReadState}
      (h : (do
        let _ ← Reading.nextToken
        modify fun s =>
          { s with level := { s.level with
              finished := s.level.sequence :: s.level.finished, parts := [] } } :
          Reading Unit) s = .ok (a, t)) : t.built.Numbered := by
    obtain ⟨next, u, hu, ht⟩ := Reading.bind_eq_ok_iff.mp h
    have hleft : u.built = s.built := leaves (fun _ => nextToken) hu
    cases ht
    exact Built.Numbered.finish_alternative (hleft ▸ hs)
  cases hbrackets : s.brackets with
  | nil =>
      rw [hbrackets] at ht
      exact ⟨hfinish ht, trivial⟩
  | cons b bs =>
      obtain ⟨opener, start, outer⟩ := b
      rw [hbrackets] at ht
      cases opener with
      | branch g =>
          obtain ⟨next, u, hu, ht⟩ := Reading.bind_eq_ok_iff.mp ht
          have hleft : u.built = s.built := leaves (fun _ => nextToken) hu
          have hb : u.built.brackets = ⟨.branch g, start, outer⟩ :: bs := by
            rw [hleft]
            exact hbrackets
          cases ht
          exact ⟨Built.Numbered.second_branch (hleft ▸ hs) hb _, trivial⟩
      | otherBranch g yes => exact absurd ht (Fails.failBack _ _ _ _ _)
      | _ => exact ⟨hfinish ht, trivial⟩

/-- A group that is closed takes in its inside. -/
theorem endGroup {s t : ReadState} {a : Unit} {b : Bracket} {bs : List Bracket}
    (hs : s.built.Numbered) (hbrackets : s.brackets = b :: bs)
    (ht : Reading.endGroup b s = .ok (a, t)) : t.built.Numbered := by
  obtain ⟨opener, start, outer⟩ := b
  have hinside : s.level.pattern.groups.Sublist s.level.groups := by
    rw [Level.groups_pattern]
  have hsequence : (Pattern.ofList s.level.sequence).groups.Sublist s.level.groups := by
    rw [Pattern.groups_ofList, Level.groups_eq]
    exact List.sublist_append_right _ _
  have hbranch : ((Pattern.ofList s.level.sequence).groups ++ []).Sublist s.level.groups := by
    rwa [List.append_nil]
  rw [Reading.endGroup_eq] at ht
  cases opener with
  | plain =>
      cases ht
      exact hs.leave hbrackets (p := s.level.pattern) hinside rfl
  | flagged on off =>
      cases ht
      exact hs.leave hbrackets (p := .withFlags on off s.level.pattern) hinside rfl
  | atomic =>
      cases ht
      exact hs.leave hbrackets (p := .atomic s.level.pattern) hinside rfl
  | ahead negated =>
      cases ht
      exact hs.leave hbrackets (p := .look none negated s.level.pattern) hinside rfl
  | behind negated bound =>
      cases ht
      exact hs.leave hbrackets
        (p := .look (some (s.level.pattern.width s.groups.width)) negated s.level.pattern) hinside
        rfl
  | capture g =>
      cases ht
      exact hs.leave hbrackets (p := .group g s.level.pattern) (hinside.cons_cons g)
        List.length_set
  | branch g =>
      cases ht
      exact hs.leave hbrackets (p := .cond g (.ofList s.level.sequence) .empty) hbranch rfl
  | otherBranch g yes =>
      cases ht
      exact hs.leave hbrackets (p := .cond g yes (.ofList s.level.sequence))
        (hsequence.append_left _) rfl

theorem readFrom (start : Nat) (t : Token) : Upholds Built.Numbered (Reading.readFrom start t) := by
  unfold Reading.readFrom
  split
  · exact (readEscape _).bind addEscaped
  · exact (readClassSet _).bind add
  · exact quantify _ _ _
  · exact quantify _ _ _
  · exact quantify _ _ _
  · refine readBounds?.andThen fun bounds => ?_
    cases bounds with
    | some bounds => exact quantify _ _ _
    | none => exact add _ rfl
  · exact add _ rfl
  · exact openGroup _
  · exact addAnchor _
  · exact addAnchor _
  · exact add _ rfl

theorem readOther (verbose : Bool) (start : Nat) (t : Token) :
    Upholds Built.Numbered (Reading.readOther verbose start t) := by
  refine branch (fun _ => returns trivial) fun _ => branch (fun _ => ?_) fun _ => readFrom _ _
  exact (skipThrough _).andThen fun _ => returns trivial

theorem readElement (t : Token) : Upholds Built.Numbered (Reading.readElement t) := by
  intro s a u hs hu
  by_cases hbar : t = .plain '|'
  · rw [hbar, Reading.readElement_bar] at hu
    exact endAlternative s a u hs hu
  · by_cases hclose : t = .plain ')' ∧ s.brackets ≠ []
    · obtain ⟨rfl, hne⟩ := hclose
      obtain ⟨b, bs, hbrackets⟩ := List.exists_cons_of_ne_nil hne
      rw [Reading.readElement_close hbrackets] at hu
      obtain ⟨next, v, hv, hu⟩ := Reading.bind_eq_ok_iff.mp hu
      have hleft : v.built = s.built := leaves (fun _ => nextToken) hv
      have hb : v.brackets = b :: bs := (congrArg Built.brackets hleft).trans hbrackets
      exact ⟨endGroup (hleft ▸ hs) hb hu, trivial⟩
    · have hopen : t = .plain ')' → s.brackets = [] := fun ht =>
        Classical.byContradiction fun hne => hclose ⟨ht, hne⟩
      rw [Reading.readElement_other hbar hopen] at hu
      exact nextToken.andThen (fun _ => readOther _ _ _) s a u hs hu

theorem readElements (n : Nat) : Upholds Built.Numbered (Reading.readElements n) := by
  induction n with
  | zero => exact returns trivial
  | succ n ih =>
      refine peek.andThen fun next => ?_
      cases next with
      | none => exact returns trivial
      | some t =>
          refine looks fun s _ => branch (fun _ => returns trivial) fun _ => ?_
          exact (readElement t).andThen fun _ => ih

end Yields

/-! ## The groups of a pattern that was read -/

namespace Regex

/-- **The groups of a pattern are numbered from left to right.** -/
theorem ascends_of_compile {flags : Flags} {p : Text} {r : Regex} (h : compile flags p = .ok r) :
    ∃ n, Ascends 0 r.pattern.groups n := by
  obtain ⟨hread, -, -⟩ := compile_eq_ok_iff.mp h
  have hwhole : (readWhole (start flags p)).map Prod.fst = .ok r := hread
  cases hresult : readWhole (start flags p) with
  | error e =>
      rw [hresult] at hwhole
      cases hwhole
  | ok x =>
      obtain ⟨q, t⟩ := x
      rw [hresult] at hwhole
      obtain rfl : q = r := Except.ok.inj hwhole
      rw [readWhole_eq] at hresult
      obtain ⟨s, u, hu, hresult⟩ := Reading.bind_eq_ok_iff.mp hresult
      cases hu
      obtain ⟨_, v, hv, hresult⟩ := Reading.bind_eq_ok_iff.mp hresult
      obtain ⟨_, w, hw, hfinish⟩ := Reading.bind_eq_ok_iff.mp hresult
      have hstart : (start flags p).built.Numbered := Nat.le_refl 0
      have hmoved : v.built.Numbered := (Yields.moveTo _ _ _ _ _ hstart hv).1
      have hend : w.built.Numbered := (Yields.readElements _ _ _ _ hmoved hw).1
      obtain ⟨-, -, -, -, rfl, -⟩ := finish_eq_ok_iff.mp hfinish
      refine ⟨w.groups.widths.length, ?_⟩
      show Ascends 0 w.level.pattern.groups w.groups.widths.length
      rw [Level.groups_pattern]
      exact hend.sublist (List.sublist_append_right _ _)

end Regex

end TextShell
