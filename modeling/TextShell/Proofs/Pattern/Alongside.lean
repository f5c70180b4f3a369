import TextShell.Pattern.Reading

/-!
# Reading an enclosed pattern

A pattern is put between two boundaries by writing `\b(?:` before it and `)\b` after it.  What the
reader makes of the whole follows from what it makes of the pattern alone as long as the two
readings stay in step, and this module says what that means and which moves of the reader keep it.

`Alongside .enclosed s s'` relates a state `s` of reading the pattern alone to the state `s'` of
reading it enclosed: the same was read, one more bracket is open at the bottom, and what was written
after the pattern follows what is left of it.  The two readings part only where the pattern ends too
early.  Reading it alone fails there, while reading on may take the closing bracket for something
else; but then there is none left for the bracket at the bottom (`Stuck`), and the reading as a
whole fails later on.  `FollowsAt` says just this of two computations.

That a stuck reading stays stuck is a statement about one reading.  It is proved together with the
other one, as the case `Alongside .stuck` of a state and itself.

## Main Definitions

* `ReadState.Stuck` — a bracket is open and no closing one is left
* `Alongside` — two states of reading that are in step
* `FollowsAt`, `Follows` — two computations stay in step, or the pattern ends too early
-/

namespace TextShell

/-- The tokens after an enclosed pattern.  If the pattern ends in a lone backslash, this takes the
bracket with it. -/
def enclosingTail (dangling : Bool) : List Token :=
  [if dangling then .escaped ')' else .plain ')', .escaped 'b']

/-- What the bracket around an enclosed pattern is and what stands before it. -/
def enclosingBracket : Opener × Level :=
  (.plain, { parts := [{ pattern := .anchor .boundary, quantifiable := .anchor }] })

/-- A bracket without its place. -/
def Bracket.shape (b : Bracket) : Opener × Level :=
  (b.opener, b.outer)

namespace ReadState

/-- A bracket is open, and no bracket can be closed any more. -/
def Stuck (s : ReadState) : Prop :=
  .plain ')' ∉ s.source.rest ∧ s.brackets ≠ []

/-- How many tokens are left to read. -/
def left (s : ReadState) : Nat :=
  s.source.rest.length

/-- What was read outside of all brackets. -/
def bottom (s : ReadState) : Level :=
  (s.brackets.getLast?.map Bracket.outer).getD s.level

end ReadState

/-- Two ways in which states of reading are in step. -/
inductive Pairing where
  /-- One reads a pattern alone and the other one reads it enclosed. -/
  | enclosed
  /-- Both read the same and are stuck. -/
  | stuck

/-- What is left to read. -/
def Pairing.Sources : Pairing → Source → Source → Prop
  | .enclosed, c, c' => c'.rest = c.rest ++ enclosingTail c.dangling ∧ c'.dangling = false
  | .stuck, c, c' => c'.rest = c.rest ∧ c'.dangling = c.dangling ∧ .plain ')' ∉ c.rest

/-- Which brackets are open. -/
def Pairing.Brackets : Pairing → List Bracket → List Bracket → Prop
  | .enclosed, bs, bs' => bs'.map Bracket.shape = bs.map Bracket.shape ++ [enclosingBracket]
  | .stuck, bs, bs' => bs'.map Bracket.shape = bs.map Bracket.shape ∧ bs ≠ []

/-- Two states of reading are in step.  Places play no part, since they only show in errors. -/
structure Alongside (mode : Pairing) (s s' : ReadState) : Prop where
  source : mode.Sources s.source s'.source
  brackets : mode.Brackets s.brackets s'.brackets
  flags : s'.flags = s.flags
  /-- A pattern that chooses no flags chooses no alphabet twice. -/
  alphabet : mode = .enclosed → ¬(s.flags.ascii = true ∧ s.flags.unicode = true)
  groups : s'.groups = s.groups
  bound : s'.bound = s.bound
  promised : s'.promises.map Prod.fst = s.promises.map Prod.fst
  level : s'.level = s.level
  /-- A lone backslash at the end of a pattern is never passed over. -/
  ended : mode = .enclosed → s.source.rest = [] → s.source.dangling = false
  /-- Outside of all brackets of a pattern that chooses no flags, blanks count. -/
  bottom : mode = .enclosed → s.bottom.verbose = false

namespace Alongside

variable {mode : Pairing} {s s' : ReadState}

/-- A stuck state is in step with itself. -/
theorem of_stuck (h : s.Stuck) : Alongside .stuck s s where
  source := ⟨rfl, rfl, h.1⟩
  brackets := ⟨rfl, h.2⟩
  flags := rfl
  alphabet := nofun
  groups := rfl
  bound := rfl
  promised := rfl
  level := rfl
  ended := nofun
  bottom := nofun

theorem stuck (h : Alongside .stuck s s') : s'.Stuck := by
  obtain ⟨hrest, -, hclosing⟩ := h.source
  obtain ⟨hshapes, hne⟩ := h.brackets
  refine ⟨hrest ▸ hclosing, fun hnil => hne ?_⟩
  rw [hnil] at hshapes
  exact List.map_eq_nil_iff.mp hshapes.symm

end Alongside

/-! ## Computations -/

/-- Two computations stay in step: from states in step both succeed alike, or the first one fails,
up to the successes listed by `P`, and the second one fails or gets stuck.  Neither gives tokens
back. -/
def FollowsAt {α : Type} (P : ReadState → Prop) (mode : Pairing) (s s' : ReadState)
    (m m' : Reading α) : Prop :=
  (∃ a t t', m s = .ok (a, t) ∧ m' s' = .ok (a, t') ∧ Alongside mode t t' ∧
      t.left ≤ s.left ∧ t'.left ≤ s'.left) ∨
    (∀ a t, m s = .ok (a, t) → P t) ∧
      ∀ a t', m' s' = .ok (a, t') → t'.Stuck ∧ t'.left ≤ s'.left

/-- Two computations stay in step wherever they start. -/
def Follows {α : Type} (m m' : Reading α) : Prop :=
  ∀ mode s s', Alongside mode s s' → FollowsAt (fun _ => False) mode s s' m m'

/-- A computation that never succeeds. -/
def Fails {α : Type} (m : Reading α) : Prop :=
  ∀ s a t, m s ≠ .ok (a, t)

/-- A computation that does not set a stuck reading free. -/
def KeepsAt {α : Type} (s : ReadState) (m : Reading α) : Prop :=
  s.Stuck → ∀ a t, m s = .ok (a, t) → t.Stuck ∧ t.left ≤ s.left

namespace Reading

variable {α β : Type} {m m' : Reading α} {f f' : α → Reading β}

theorem bind_eq_ok_iff {s u : ReadState} {b : β} :
    (m >>= f) s = .ok (b, u) ↔ ∃ a t, m s = .ok (a, t) ∧ f a t = .ok (b, u) := by
  show (m s >>= fun r => f r.1 r.2) = .ok (b, u) ↔ _
  cases m s with
  | error e => exact ⟨nofun, fun ⟨_, _, h, _⟩ => nomatch h⟩
  | ok r =>
      constructor
      · intro h
        exact ⟨r.1, r.2, rfl, h⟩
      · rintro ⟨a, t, hr, h⟩
        cases hr
        exact h

theorem bind_congr_at {s s' : ReadState} (h : m s = m' s') : (m >>= f) s = (m' >>= f) s' := by
  show (m s >>= fun r => f r.1 r.2) = (m' s' >>= fun r => f r.1 r.2)
  rw [h]

theorem bind_of_eq_ok {s t : ReadState} {a : α} (h : m s = .ok (a, t)) : (m >>= f) s = f a t := by
  show (m s >>= fun r => f r.1 r.2) = _
  rw [h]
  rfl

end Reading

namespace Fails

variable {α β : Type} {m : Reading α} {f : α → Reading β}

theorem failAt (offset : Nat) (c : Complaint) : Fails (Reading.failAt offset c : Reading α) :=
  fun _ _ _ h => nomatch h

theorem failBack (back : Nat) (c : Complaint) : Fails (Reading.failBack back c : Reading α) :=
  fun _ _ _ h => nomatch h

theorem exceed (e : Excess) : Fails (Reading.exceed e : Reading α) :=
  fun _ _ _ h => nomatch h

theorem bind (h : Fails m) : Fails (m >>= f) := by
  intro s b u hok
  obtain ⟨a, t, hm, -⟩ := Reading.bind_eq_ok_iff.mp hok
  exact h s a t hm

theorem bind_right (h : ∀ a, Fails (f a)) : Fails (m >>= f) := by
  intro s b u hok
  obtain ⟨a, t, -, hf⟩ := Reading.bind_eq_ok_iff.mp hok
  exact h a t b u hf

end Fails

namespace KeepsAt

variable {α β : Type} {m : Reading α} {f : α → Reading β}

theorem returns (s : ReadState) (a : α) : KeepsAt s (pure a) := by
  intro hs b t ht
  cases ht
  exact ⟨hs, Nat.le_refl _⟩

theorem bind {s : ReadState} (h : KeepsAt s m) (hf : ∀ a t, m s = .ok (a, t) → KeepsAt t (f a)) :
    KeepsAt s (m >>= f) := by
  intro hs b u hok
  obtain ⟨a, t, ht, hu⟩ := Reading.bind_eq_ok_iff.mp hok
  obtain ⟨hstuck, hle⟩ := h hs a t ht
  obtain ⟨hstuck', hle'⟩ := hf a t ht hstuck b u hu
  exact ⟨hstuck', Nat.le_trans hle' hle⟩

end KeepsAt

namespace FollowsAt

variable {α β : Type} {P Q : ReadState → Prop} {mode : Pairing} {s s' : ReadState}
variable {m m' : Reading α} {f f' : α → Reading β}

theorem inStep {a : α} {t t' : ReadState} (hm : m s = .ok (a, t)) (hm' : m' s' = .ok (a, t'))
    (ht : Alongside mode t t') (hle : t.left ≤ s.left) (hle' : t'.left ≤ s'.left) :
    FollowsAt P mode s s' m m' :=
  Or.inl ⟨a, t, t', hm, hm', ht, hle, hle'⟩

theorem returns (h : Alongside mode s s') (a : α) : FollowsAt P mode s s' (pure a) (pure a) :=
  Or.inl ⟨a, s, s', rfl, rfl, h, Nat.le_refl _, Nat.le_refl _⟩

theorem of_fails (hm : ∀ a t, m s ≠ .ok (a, t))
    (hm' : ∀ a t', m' s' = .ok (a, t') → t'.Stuck ∧ t'.left ≤ s'.left) :
    FollowsAt P mode s s' m m' :=
  Or.inr ⟨fun a t h => absurd h (hm a t), hm'⟩

theorem mono (h : FollowsAt P mode s s' m m') (hPQ : ∀ t, P t → Q t) :
    FollowsAt Q mode s s' m m' := by
  rcases h with hin | ⟨hm, hm'⟩
  · exact Or.inl hin
  · exact Or.inr ⟨fun a t ht => hPQ t (hm a t ht), hm'⟩

/-- What stays in step, also with a stuck reading, does not set that free. -/
theorem keeps {u : ReadState} (h : u.Stuck → FollowsAt P .stuck u u m m') : KeepsAt u m' := by
  intro hu a t ht
  rcases h hu with ⟨b, v, v', -, hv', halong, -, hle'⟩ | ⟨-, hstuck⟩
  · obtain ⟨rfl, rfl⟩ : a = b ∧ t = v' := by
      rw [ht] at hv'
      cases hv'
      exact ⟨rfl, rfl⟩
    exact ⟨halong.stuck, hle'⟩
  · exact hstuck a t ht

/-- A choice that does not hang on the state. -/
theorem branch {k k' : Reading α} {c : Prop} [Decidable c] (h : c → FollowsAt P mode s s' m m')
    (h' : ¬c → FollowsAt P mode s s' k k') :
    FollowsAt P mode s s' (if c then m else k) (if c then m' else k') := by
  by_cases hc : c
  · rw [if_pos hc, if_pos hc]
    exact h hc
  · rw [if_neg hc, if_neg hc]
    exact h' hc

/-- Computations stay in step after others that did. -/
theorem after {a : α} {t t' : ReadState} (hm : m s = .ok (a, t)) (hm' : m' s' = .ok (a, t'))
    (hle : t.left ≤ s.left) (hle' : t'.left ≤ s'.left) (hf : FollowsAt P mode t t' (f a) (f' a)) :
    FollowsAt P mode s s' (m >>= f) (m' >>= f') := by
  unfold FollowsAt
  rw [Reading.bind_of_eq_ok hm, Reading.bind_of_eq_ok hm']
  rcases hf with ⟨b, u, u', hu, hu', halong, hle₁, hle₁'⟩ | ⟨hu, hu'⟩
  · exact Or.inl ⟨b, u, u', hu, hu', halong, Nat.le_trans hle₁ hle, Nat.le_trans hle₁' hle'⟩
  · refine Or.inr ⟨hu, fun b u' h => ?_⟩
    obtain ⟨hstuck, hle₁⟩ := hu' b u' h
    exact ⟨hstuck, Nat.le_trans hle₁ hle'⟩

/-- After computations that stay in step, others do from the states that are reached. -/
theorem bind (h : FollowsAt (fun _ => False) mode s s' m m')
    (hf : ∀ a t t', m s = .ok (a, t) → m' s' = .ok (a, t') → Alongside mode t t' →
      t.left ≤ s.left → t'.left ≤ s'.left → FollowsAt P mode t t' (f a) (f' a))
    (hkeeps : ∀ a t', m' s' = .ok (a, t') → KeepsAt t' (f' a)) :
    FollowsAt P mode s s' (m >>= f) (m' >>= f') := by
  rcases h with ⟨a, t, t', hm, hm', ht, hle, hle'⟩ | ⟨hm, hm'⟩
  · exact after hm hm' hle hle' (hf a t t' hm hm' ht hle hle')
  · refine Or.inr ⟨fun b u h => ?_, fun b u' h => ?_⟩
    · obtain ⟨a, t, ht, -⟩ := Reading.bind_eq_ok_iff.mp h
      exact (hm a t ht).elim
    · obtain ⟨a, t', ht', hu'⟩ := Reading.bind_eq_ok_iff.mp h
      obtain ⟨hstuck, hle⟩ := hm' a t' ht'
      obtain ⟨hstuck₁, hle₁⟩ := hkeeps a t' ht' hstuck b u' hu'
      exact ⟨hstuck₁, Nat.le_trans hle₁ hle⟩

/-- A look at states that are in step. -/
theorem looks {f f' : ReadState → Reading β} (h : FollowsAt P mode s s' (f s) (f' s')) :
    FollowsAt P mode s s' (get >>= f) (get >>= f') :=
  h

/-- Going to other states that are in step, from which computations stay in step. -/
theorem sets_bind {k k' : Reading β} {t t' : ReadState}
    (hle : t.left ≤ s.left) (hle' : t'.left ≤ s'.left)
    (hk : FollowsAt P mode t t' k k') :
    FollowsAt P mode s s' (set t >>= fun _ => k) (set t' >>= fun _ => k') :=
  after (a := ⟨⟩) rfl rfl hle hle' hk

end FollowsAt

namespace Follows

variable {α β : Type} {m m' k k' : Reading α} {f f' : α → Reading β}

/-- What stays in step does not set a stuck reading free. -/
theorem keeps (h : Follows m m') (s : ReadState) : KeepsAt s m' :=
  FollowsAt.keeps fun hs => h .stuck s s (.of_stuck hs)

/-- What stays in step wherever it starts does so from states in step, whatever is excepted. -/
theorem along (h : Follows m m') {P : ReadState → Prop} {mode : Pairing} {s s' : ReadState}
    (hs : Alongside mode s s') : FollowsAt P mode s s' m m' :=
  (h mode s s' hs).mono fun _ => False.elim

theorem returns (a : α) : Follows (pure a : Reading α) (pure a) :=
  fun _ _ _ hs => .returns hs a

theorem bind (h : Follows m m') (hf : ∀ a, Follows (f a) (f' a)) :
    Follows (m >>= f) (m' >>= f') :=
  fun mode s s' hs => (h mode s s' hs).bind (fun a t t' _ _ ht _ _ => hf a mode t t' ht)
    fun a t' _ => (hf a).keeps t'

theorem of_fails (hm : Fails m) (hm' : Fails m') : Follows m m' :=
  fun _ s s' _ => .of_fails (hm s) fun a t' h => absurd h (hm' s' a t')

theorem branch {c : Prop} [Decidable c] (h : c → Follows m m') (h' : ¬c → Follows k k') :
    Follows (if c then m else k) (if c then m' else k') :=
  fun mode s s' hs => .branch (fun hc => h hc mode s s' hs) fun hc => h' hc mode s s' hs

/-- A check that fails the reading. -/
theorem check {c : Prop} [Decidable c] (hm : Fails m) (hm' : Fails m') (h : Follows k k') :
    Follows (if c then m else k) (if c then m' else k') :=
  branch (fun _ => of_fails hm hm') fun _ => h

/-- A check that ends the reading, whatever would follow. -/
theorem checked {γ : Type} {c : Prop} [Decidable c] {e e' : Reading γ} {g g' : γ → Reading α}
    (he : Fails e) (he' : Fails e') (h : Follows k k') :
    Follows (if c then e >>= g else k) (if c then e' >>= g' else k') :=
  check he.bind he'.bind h

/-- A look at states that are in step. -/
theorem looks {f f' : ReadState → Reading β}
    (h : ∀ mode s s', Alongside mode s s' → FollowsAt (fun _ => False) mode s s' (f s) (f' s')) :
    Follows (get >>= f) (get >>= f') :=
  fun mode s s' hs => .looks (h mode s s' hs)

/-- A change that keeps states in step. -/
theorem changes {g g' : ReadState → ReadState}
    (h : ∀ mode s s', Alongside mode s s' → Alongside mode (g s) (g' s'))
    (hg : ∀ s, (g s).source = s.source) (hg' : ∀ s, (g' s).source = s.source) :
    Follows (modify g) (modify g') := by
  intro mode s s' hs
  have hle : (g s).left ≤ s.left := Nat.le_of_eq (congrArg (·.rest.length) (hg s))
  have hle' : (g' s').left ≤ s'.left := Nat.le_of_eq (congrArg (·.rest.length) (hg' s'))
  exact .inStep (a := ()) rfl rfl (h mode s s' hs) hle hle'

end Follows

/-! ## Loops

A loop of the reader counts its rounds down.  Two readings may begin with different counts, since
each takes the number of tokens that are left; neither count runs out. -/

/-- Two computations stay in step where less than so many tokens are left, and the second one never
sets a stuck reading free. -/
structure FollowsBelow {α : Type} (k k' : Nat) (m m' : Reading α) : Prop where
  follows : ∀ {mode s s'}, Alongside mode s s' → s.left < k → s'.left < k' →
    FollowsAt (fun _ => False) mode s s' m m'
  keeps : ∀ s', KeepsAt s' m'

theorem Follows.below {α : Type} {m m' : Reading α} (h : Follows m m') (k k' : Nat) :
    FollowsBelow k k' m m' where
  follows hs _ _ := h _ _ _ hs
  keeps := h.keeps

namespace FollowsBelow

variable {α β : Type} {k k' : Nat} {m m' l l' : Reading α} {f f' : α → Reading β}

theorem bind (h : FollowsBelow k k' m m') (hf : ∀ a, FollowsBelow k k' (f a) (f' a)) :
    FollowsBelow k k' (m >>= f) (m' >>= f') where
  follows hs hlt hlt' := (h.follows hs hlt hlt').bind
    (fun a _ _ _ _ ht hle hle' => (hf a).follows ht (by omega) (by omega))
    fun a t' _ => (hf a).keeps t'
  keeps s' := (h.keeps s').bind fun a t' _ => (hf a).keeps t'

theorem branch {c : Prop} [Decidable c] (h : c → FollowsBelow k k' m m')
    (h' : ¬c → FollowsBelow k k' l l') :
    FollowsBelow k k' (if c then m else l) (if c then m' else l') := by
  by_cases hc : c
  · rw [if_pos hc, if_pos hc]
    exact h hc
  · rw [if_neg hc, if_neg hc]
    exact h' hc

theorem checked {γ : Type} {c : Prop} [Decidable c] {e e' : Reading γ} {g g' : γ → Reading α}
    (he : Fails e) (he' : Fails e') (h : FollowsBelow k k' l l') :
    FollowsBelow k k' (if c then e >>= g else l) (if c then e' >>= g' else l') :=
  branch (fun _ => (Follows.of_fails he.bind he'.bind).below k k') fun _ => h

theorem of_succ (h : FollowsBelow (k + 1) (k' + 1) m m') : FollowsBelow k k' m m' where
  follows hs hlt hlt' := h.follows hs (Nat.lt_succ_of_lt hlt) (Nat.lt_succ_of_lt hlt')
  keeps := h.keeps

/-- Loops stay in step if their rounds do, each of which reads a token at least. -/
theorem loop {ι : Type} (run run' : Nat → ι → Reading α)
    {round round' : ι → (ι → Reading α) → Reading α} (hzero' : ∀ i, Fails (run' 0 i))
    (hsucc : ∀ n i, run (n + 1) i = round i (run n))
    (hsucc' : ∀ n i, run' (n + 1) i = round' i (run' n))
    (hround : ∀ {k k' next next'}, (∀ i, FollowsBelow k k' (next i) (next' i)) →
      ∀ i, FollowsBelow (k + 1) (k' + 1) (round i next) (round' i next'))
    (n n' : Nat) (i : ι) : FollowsBelow n n' (run n i) (run' n' i) := by
  have hkeeps : ∀ n' i s', KeepsAt s' (run' n' i) := by
    intro n'
    induction n' with
    | zero => exact fun i s' _ a t ht => absurd ht (hzero' i s' a t)
    | succ n' ih =>
        intro i s'
        rw [hsucc']
        have hbelow : ∀ i, FollowsBelow 0 0 (run' n' i) (run' n' i) :=
          fun i => ⟨fun _ hlt _ => absurd hlt (Nat.not_lt_zero _), ih i⟩
        exact (hround hbelow i).keeps s'
  induction n generalizing n' i with
  | zero => exact ⟨fun _ hlt _ => absurd hlt (Nat.not_lt_zero _), hkeeps n' i⟩
  | succ n ih =>
      cases n' with
      | zero => exact ⟨fun _ _ hlt => absurd hlt (Nat.not_lt_zero _), hkeeps 0 i⟩
      | succ n' =>
          rw [hsucc, hsucc']
          exact hround (ih n') i

end FollowsBelow

end TextShell
