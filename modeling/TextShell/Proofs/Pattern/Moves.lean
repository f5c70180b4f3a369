import TextShell.Proofs.Pattern.Alongside

/-!
# Reading on inside of brackets

The moves of the reader through the tokens keep readings in step.  Where the pattern ends in the
middle of such a move, reading it alone fails; reading it enclosed may go on through the closing
bracket, and then no closing bracket is left.

## Main Definitions

* `FollowsPast` — two computations stay in step, and both read a token
* `FollowsAt.moveTo` — going on, on which the other moves rest
* `Follows.nextToken_bind`, `Follows.accept`, `Follows.takeUpTo` — the moves over a few tokens
* `FollowsAt.through`, `Follows.readName` — the moves through the next token of a kind
-/

namespace TextShell

/-! ## Moving on -/

/-- The characters that are taken satisfy the test, and nothing is lost between them and what
follows them. -/
theorem spanPlain_eq {p : Char → Bool} {n : Nat} {ts rest : List Token} {cs : Text}
    (h : spanPlain p n ts = (cs, rest)) : ts = cs.map .plain ++ rest ∧ ∀ c ∈ cs, p c = true := by
  induction n generalizing ts cs with
  | zero =>
      cases h
      exact ⟨rfl, nofun⟩
  | succ n ih =>
      cases ts with
      | nil =>
          cases h
          exact ⟨rfl, nofun⟩
      | cons t ts =>
          cases t with
          | escaped c =>
              cases h
              exact ⟨rfl, nofun⟩
          | plain c =>
              unfold spanPlain at h
              by_cases hc : p c = true
              · simp only [hc, if_true] at h
                rcases hspan : spanPlain p n ts with ⟨cs', rest'⟩
                rw [hspan] at h
                cases h
                obtain ⟨hts, hall⟩ := ih hspan
                refine ⟨by rw [List.map_cons, List.cons_append, ← hts], ?_⟩
                exact List.forall_mem_cons.mpr ⟨hc, hall⟩
              · simp only [hc, Bool.false_eq_true, if_false] at h
                cases h
                exact ⟨rfl, nofun⟩

/-- Tokens that begin with none of the characters are not taken. -/
theorem spanPlain_append {p : Char → Bool} (hp : p ')' = false) (dangling : Bool) (n : Nat)
    (ts : List Token) :
    spanPlain p n (ts ++ enclosingTail dangling) =
      ((spanPlain p n ts).1, (spanPlain p n ts).2 ++ enclosingTail dangling) := by
  induction n generalizing ts with
  | zero => rfl
  | succ n ih =>
      cases ts with
      | nil => cases dangling <;> simp [spanPlain, enclosingTail, hp]
      | cons t ts =>
          cases t with
          | escaped c => rfl
          | plain c =>
              rw [List.cons_append]
              unfold spanPlain
              by_cases hc : p c = true
              · simp [hc, ih]
              · simp [hc]

/-- As many characters as there are tokens are all. -/
theorem spanPlain_of_length_le (p : Char → Bool) {n : Nat} {ts : List Token} (h : ts.length ≤ n) :
    spanPlain p n ts = spanPlain p ts.length ts := by
  induction n generalizing ts with
  | zero =>
      obtain rfl : ts = [] := List.length_eq_zero_iff.mp (Nat.le_zero.mp h)
      rfl
  | succ n ih =>
      cases ts with
      | nil => rfl
      | cons t ts =>
          cases t with
          | escaped c => rfl
          | plain c =>
              rw [List.length_cons, spanPlain, spanPlain, ih (by simpa using h)]

/-- The character is the first of its kind. -/
theorem splitAtPlain_eq_some {c : Char} {ts before after : List Token}
    (h : splitAtPlain c ts = some (before, after)) :
    ts = before ++ .plain c :: after ∧ .plain c ∉ before := by
  induction ts generalizing before with
  | nil => cases h
  | cons t ts ih =>
      unfold splitAtPlain at h
      split at h
      · rename_i ht
        cases h
        exact ⟨by rw [ht, List.nil_append], List.not_mem_nil⟩
      · rename_i ht
        obtain ⟨⟨before', after'⟩, hsplit, heq⟩ := Option.map_eq_some_iff.mp h
        cases heq
        obtain ⟨hts, hbefore⟩ := ih hsplit
        refine ⟨by rw [List.cons_append, ← hts], ?_⟩
        rw [List.mem_cons, not_or]
        exact ⟨fun heq => ht heq.symm, hbefore⟩

theorem length_le_of_splitAtPlain {c : Char} {ts before after : List Token}
    (h : splitAtPlain c ts = some (before, after)) : after.length ≤ ts.length := by
  rw [(splitAtPlain_eq_some h).1]
  simp only [List.length_append, List.length_cons]
  omega

theorem splitAtPlain_append_of_some {c : Char} {ts before after : List Token}
    (h : splitAtPlain c ts = some (before, after)) (tail : List Token) :
    splitAtPlain c (ts ++ tail) = some (before, after ++ tail) := by
  induction ts generalizing before with
  | nil => cases h
  | cons t ts ih =>
      rw [List.cons_append]
      unfold splitAtPlain at h ⊢
      split at h
      · rename_i ht
        cases h
        rw [if_pos ht]
      · rename_i ht
        obtain ⟨⟨before', after'⟩, hsplit, heq⟩ := Option.map_eq_some_iff.mp h
        cases heq
        rw [if_neg ht, ih hsplit]
        rfl

theorem splitAtPlain_append_of_none {c : Char} {ts : List Token} (h : splitAtPlain c ts = none)
    (tail : List Token) :
    splitAtPlain c (ts ++ tail) = (splitAtPlain c tail).map fun r => (ts ++ r.1, r.2) := by
  induction ts with
  | nil => simp
  | cons t ts ih =>
      unfold splitAtPlain at h
      split at h
      · cases h
      · rename_i ht
        rw [List.cons_append, splitAtPlain, if_neg ht, ih (Option.map_eq_none_iff.mp h),
          Option.map_map]
        rfl

/-- What is left after some of the tokens is in step with what is left enclosed. -/
theorem Pairing.Sources.rest {mode : Pairing} {c c' : Source} (h : mode.Sources c c')
    (before rest : List Token) (hrest : c.rest = before ++ rest) (pos pos' : Nat) :
    ∃ rest', c'.rest = before ++ rest' ∧
      mode.Sources { c with rest := rest, pos := pos } { c' with rest := rest', pos := pos' } := by
  cases mode with
  | enclosed =>
      refine ⟨rest ++ enclosingTail c.dangling, ?_, rfl, h.2⟩
      rw [h.1, hrest, List.append_assoc]
  | stuck =>
      refine ⟨rest, h.1.trans hrest, rfl, h.2.1, ?_⟩
      intro hmem
      exact h.2.2 (hrest ▸ List.mem_append_right before hmem)

namespace Alongside

variable {mode : Pairing} {s s' : ReadState}

/-- Sources that are in step may be put in place of others. -/
theorem withSource (h : Alongside mode s s') {c c' : Source} (hc : mode.Sources c c')
    (hended : c.rest = [] → c.dangling = false) :
    Alongside mode { s with source := c } { s' with source := c' } :=
  { h with source := hc, ended := fun _ => hended, bottom := h.bottom }

theorem brackets_ne_nil (h : Alongside mode s s') : s'.brackets ≠ [] := by
  cases mode with
  | enclosed =>
      intro hnil
      have hshapes : s'.brackets.map Bracket.shape = _ := h.brackets
      simp [hnil] at hshapes
  | stuck => exact h.stuck.2

end Alongside

namespace Reading

variable {rest : List Token} {pos : Nat} {s : ReadState}

/-- Coming to a lone backslash is an error. -/
theorem moveTo_ne_ok (hrest : rest = []) (hs : s.source.dangling = true) (a : Unit)
    (t : ReadState) : moveTo rest pos s ≠ .ok (a, t) := by
  obtain ⟨⟨pattern, dangling, rest₀, pos₀⟩, flags, groups, bound, promises, level, brackets⟩ := s
  simp only at hs
  subst hrest hs
  nofun

theorem moveTo_eq_ok (h : rest = [] → s.source.dangling = false) :
    moveTo rest pos s =
      .ok ((), { s with source := { s.source with rest := rest, pos := pos } }) := by
  obtain ⟨⟨pattern, dangling, rest₀, pos₀⟩, flags, groups, bound, promises, level, brackets⟩ := s
  cases rest with
  | nil =>
      obtain rfl : dangling = false := h rfl
      rfl
  | cons t ts => cases dangling <;> rfl

theorem eq_of_moveTo {a : Unit} {u : ReadState} (h : moveTo rest pos s = .ok (a, u)) :
    u = { s with source := { s.source with rest := rest, pos := pos } } := by
  by_cases hok : rest = [] → s.source.dangling = false
  · rw [moveTo_eq_ok hok] at h
    cases h
    rfl
  · obtain ⟨hnil, hdangling⟩ := Classical.not_imp.mp hok
    exact absurd h (moveTo_ne_ok hnil (by simpa using hdangling) _ _)

end Reading

namespace FollowsAt

variable {α β : Type} {P : ReadState → Prop} {mode : Pairing} {s s' : ReadState}

/-- Going on to what is left.  If a lone backslash is all that is left of the pattern, the first
reading fails and the second one is stuck. -/
theorem moveTo (h : Alongside mode s s') {rest rest' : List Token} {pos pos' : Nat}
    (hc : mode.Sources { s.source with rest := rest, pos := pos }
      { s'.source with rest := rest', pos := pos' })
    (hle : rest.length ≤ s.left) (hle' : rest'.length ≤ s'.left) :
    FollowsAt P mode s s' (Reading.moveTo rest pos) (Reading.moveTo rest' pos') := by
  by_cases hend : rest = [] ∧ s.source.dangling = true
  · obtain ⟨rfl, hdangling⟩ := hend
    refine .of_fails (Reading.moveTo_ne_ok rfl hdangling) fun a t' ht => ?_
    cases mode with
    | enclosed =>
        -- the backslash has taken the closing bracket with it
        obtain ⟨hrest, hdangling'⟩ : rest' = [] ++ enclosingTail s.source.dangling ∧ _ := hc
        rw [hdangling] at hrest
        rw [Reading.moveTo_eq_ok fun _ => hdangling'] at ht
        cases ht
        exact ⟨⟨by simp [hrest, enclosingTail], h.brackets_ne_nil⟩, hle'⟩
    | stuck =>
        obtain ⟨hrest, hdangling', -⟩ :
            rest' = [] ∧ s'.source.dangling = s.source.dangling ∧ _ := hc
        exact absurd ht (Reading.moveTo_ne_ok hrest (hdangling'.trans hdangling) a t')
  · have hok : rest = [] → s.source.dangling = false := fun hrest => by simpa [hrest] using hend
    have hok' : rest' = [] → s'.source.dangling = false := by
      intro hrest'
      cases mode with
      | enclosed => exact hc.2
      | stuck => exact hc.2.1.trans (hok (hc.1.symm.trans hrest'))
    exact inStep (Reading.moveTo_eq_ok hok) (Reading.moveTo_eq_ok hok')
      (h.withSource hc hok) hle hle'

/-- Going on as many tokens, then giving a result. -/
theorem moveTo_bind (h : Alongside mode s s') (a : α) (pos pos' : Nat) {before rest : List Token}
    (hrest : s.source.rest = before ++ rest) :
    ∃ rest', s'.source.rest = before ++ rest' ∧
      FollowsAt P mode s s' (do Reading.moveTo rest pos; return a)
        (do Reading.moveTo rest' pos'; return a) := by
  obtain ⟨rest', hrest', hc⟩ := h.source.rest before rest hrest pos pos'
  have hle : rest.length ≤ s.left := by simp [ReadState.left, hrest]
  have hle' : rest'.length ≤ s'.left := by simp [ReadState.left, hrest']
  exact ⟨rest', hrest', (moveTo h hc hle hle').bind (fun _ t t' _ _ ht _ _ => returns ht a)
    fun _ t' _ => .returns t' a⟩

end FollowsAt

/-! ## Tokens -/

namespace Reading

variable {s : ReadState} {t : Token} {ts : List Token}

theorem nextToken_eq (s : ReadState) :
    nextToken s = (match s.source.rest with
      | [] => pure none
      | t :: ts => do
        moveTo ts (s.source.pos + t.size)
        return some t : Reading (Option Token)) s :=
  rfl

theorem nextToken_of_nil (h : s.source.rest = []) : nextToken s = .ok (none, s) := by
  rw [nextToken_eq, h]
  rfl

theorem nextToken_of_cons (h : s.source.rest = t :: ts) :
    nextToken s = (do moveTo ts (s.source.pos + t.size); return some t : Reading _) s := by
  rw [nextToken_eq, h]

/-- What is read is taken off, and nothing else changes. -/
theorem nextToken_eq_ok {x : Option Token} {u : ReadState} (h : nextToken s = .ok (x, u)) :
    (s.source.rest = [] ∧ x = none ∧ u = s) ∨
      ∃ t c, s.source.rest = t :: c.rest ∧ x = some t ∧ u = { s with source := c } := by
  cases hs : s.source.rest with
  | nil =>
      rw [nextToken_of_nil hs] at h
      cases h
      exact Or.inl ⟨rfl, rfl, rfl⟩
  | cons t ts =>
      rw [nextToken_of_cons hs] at h
      obtain ⟨a, v, hmove, hv⟩ := bind_eq_ok_iff.mp h
      cases hv
      obtain rfl := eq_of_moveTo hmove
      exact Or.inr ⟨t, _, rfl, rfl, rfl⟩

theorem left_le_of_nextToken {x : Option Token} {u : ReadState} (h : nextToken s = .ok (x, u)) :
    u.left ≤ s.left := by
  rcases nextToken_eq_ok h with ⟨-, -, rfl⟩ | ⟨t, c, hcons, -, rfl⟩
  · exact Nat.le_refl _
  · simp [ReadState.left, hcons]

end Reading

theorem KeepsAt.nextToken (s : ReadState) : KeepsAt s Reading.nextToken := by
  intro hs x u hu
  refine ⟨?_, Reading.left_le_of_nextToken hu⟩
  rcases Reading.nextToken_eq_ok hu with ⟨-, -, rfl⟩ | ⟨t, c, hcons, -, rfl⟩
  · exact hs
  · exact ⟨fun hmem => hs.1 (hcons ▸ List.mem_cons_of_mem t hmem), hs.2⟩

namespace Alongside

variable {mode : Pairing} {s s' : ReadState}

/-- Where the pattern has ended, reading a token takes the closing bracket. -/
theorem stuck_of_nextToken (h : Alongside mode s s') (hs : s.source.rest = []) {x : Option Token}
    {u' : ReadState} (hu' : Reading.nextToken s' = .ok (x, u')) : u'.Stuck := by
  rcases Reading.nextToken_eq_ok hu' with ⟨hnil, -, rfl⟩ | ⟨t, c, hcons, -, rfl⟩
  · refine ⟨by simp [hnil], h.brackets_ne_nil⟩
  · refine ⟨?_, h.brackets_ne_nil⟩
    cases mode with
    | enclosed =>
        obtain ⟨hrest, -⟩ := h.source
        rw [hs, hcons] at hrest
        obtain ⟨-, htail⟩ := List.cons.inj hrest
        show .plain ')' ∉ c.rest
        rw [htail]
        simp
    | stuck =>
        obtain ⟨hrest, -⟩ := h.source
        rw [hs, hcons] at hrest
        cases hrest

end Alongside

namespace FollowsAt

variable {α β : Type} {P : ReadState → Prop} {mode : Pairing} {s s' : ReadState}
variable {f f' : Option Token → Reading β}

/-- Reading a token that is there. -/
theorem nextToken_of_cons (h : Alongside mode s s') {t : Token} {ts : List Token}
    (hs : s.source.rest = t :: ts) :
    FollowsAt P mode s s' Reading.nextToken Reading.nextToken := by
  have hcut : s.source.rest = [t] ++ ts := hs
  obtain ⟨rest', hrest', hfollows⟩ := moveTo_bind (P := P) h (some t) (s.source.pos + t.size)
    (s'.source.pos + t.size) hcut
  unfold FollowsAt at hfollows ⊢
  rwa [Reading.nextToken_of_cons hs, Reading.nextToken_of_cons hrest']

/-- Reading a token where one must follow.  What reads on goes on with the rest of the tokens. -/
theorem nextToken_bind (h : Alongside mode s s') (hnone : Fails (f none)) (hnone' : Fails (f' none))
    (hf : ∀ t u u', s.source.rest = t :: u.source.rest → s'.source.rest = t :: u'.source.rest →
      Alongside mode u u' → FollowsAt P mode u u' (f (some t)) (f' (some t)))
    (hkeeps : ∀ t u', s'.source.rest = t :: u'.source.rest → KeepsAt u' (f' (some t))) :
    FollowsAt P mode s s' (Reading.nextToken >>= f) (Reading.nextToken >>= f') := by
  have hkeeps' : ∀ x u', Reading.nextToken s' = .ok (x, u') → KeepsAt u' (f' x) := by
    intro x u' hu'
    rcases Reading.nextToken_eq_ok hu' with ⟨-, rfl, -⟩ | ⟨t, c, hcons, rfl, rfl⟩
    · exact fun _ b v' hv' => absurd hv' (hnone' _ b v')
    · exact hkeeps t _ hcons
  cases hs : s.source.rest with
  | nil =>
      -- the pattern has ended, and what may be read in its place is the closing bracket
      refine of_fails (fun b v hv => ?_) fun b v' hv' => ?_
      · rw [Reading.bind_of_eq_ok (Reading.nextToken_of_nil hs)] at hv
        exact hnone s b v hv
      · obtain ⟨x, u', hu', hv'⟩ := Reading.bind_eq_ok_iff.mp hv'
        obtain ⟨hstuck, hle⟩ := hkeeps' x u' hu' (h.stuck_of_nextToken hs hu') b v' hv'
        exact ⟨hstuck, Nat.le_trans hle (Reading.left_le_of_nextToken hu')⟩
  | cons t ts =>
      refine (nextToken_of_cons h hs).bind (fun x u u' hu hu' halong _ _ => ?_) hkeeps'
      rcases Reading.nextToken_eq_ok hu with ⟨hnil, -, -⟩ | ⟨t₁, c, hcons, rfl, rfl⟩
      · rw [hs] at hnil
        cases hnil
      · rcases Reading.nextToken_eq_ok hu' with ⟨-, hx, -⟩ | ⟨t₁', c', hcons', hx, rfl⟩
        · cases hx
        · obtain rfl : t₁ = t₁' := Option.some.inj hx
          exact hf t₁ _ _ hcons hcons' halong

end FollowsAt

/-- Two computations stay in step, and where they do, both read a token at least. -/
def FollowsPast {α : Type} (P : ReadState → Prop) (mode : Pairing) (s s' : ReadState)
    (m m' : Reading α) : Prop :=
  (∃ a t t', m s = .ok (a, t) ∧ m' s' = .ok (a, t') ∧ Alongside mode t t' ∧
      t.left < s.left ∧ t'.left < s'.left) ∨
    (∀ a t, m s = .ok (a, t) → P t) ∧
      ∀ a t', m' s' = .ok (a, t') → t'.Stuck ∧ t'.left ≤ s'.left

theorem FollowsPast.follows {α : Type} {P : ReadState → Prop} {mode : Pairing} {s s' : ReadState}
    {m m' : Reading α} (h : FollowsPast P mode s s' m m') : FollowsAt P mode s s' m m' := by
  rcases h with ⟨a, t, t', hm, hm', ht, hlt, hlt'⟩ | hends
  · exact .inStep hm hm' ht (Nat.le_of_lt hlt) (Nat.le_of_lt hlt')
  · exact Or.inr hends

/-- Reading on over a token that is there, whatever it is. -/
theorem FollowsPast.skipToken_bind {α : Type} {P : ReadState → Prop} {mode : Pairing}
    {s s' : ReadState} {m m' : Reading α} (h : Alongside mode s s') {t : Token} {ts : List Token}
    (hs : s.source.rest = t :: ts)
    (hm : ∀ c c', ts = c.rest → Alongside mode { s with source := c } { s' with source := c' } →
      FollowsAt P mode { s with source := c } { s' with source := c' } m m')
    (hkeeps : ∀ c', KeepsAt { s' with source := c' } m') :
    FollowsPast P mode s s' (Reading.nextToken >>= fun _ => m)
      (Reading.nextToken >>= fun _ => m') := by
  obtain ⟨rest', hrest', -⟩ := h.source.rest [t] ts hs 0 0
  have hcons' : s'.source.rest = t :: rest' := hrest'
  have hsource : ∀ {s : ReadState} {t ts x u}, s.source.rest = t :: ts →
      Reading.nextToken s = .ok (x, u) → ∃ c, ts = c.rest ∧ u = { s with source := c } := by
    intro s t ts x u hs hu
    rcases Reading.nextToken_eq_ok hu with ⟨hnil, -, -⟩ | ⟨t₁, c, hcons, -, rfl⟩
    · simp [hs] at hnil
    · exact ⟨c, (List.cons.inj (hs.symm.trans hcons)).2, rfl⟩
  rcases FollowsAt.nextToken_of_cons (P := fun _ => False) h hs with
    ⟨x, u, u', hu, hu', halong, -, -⟩ | ⟨hfail, hstuck⟩
  · obtain ⟨c, hc, rfl⟩ := hsource hs hu
    obtain ⟨c', hc', rfl⟩ := hsource hcons' hu'
    have hlt : c.rest.length < s.left := by simp [ReadState.left, hs, hc]
    have hlt' : c'.rest.length < s'.left := by simp [ReadState.left, hcons', hc']
    unfold FollowsPast
    rw [Reading.bind_of_eq_ok hu, Reading.bind_of_eq_ok hu']
    rcases hm c c' hc halong with ⟨a, v, v', hv, hv', hv₁, hle, hle'⟩ | ⟨hfail, hstuck⟩
    · exact Or.inl
        ⟨a, v, v', hv, hv', hv₁, Nat.lt_of_le_of_lt hle hlt, Nat.lt_of_le_of_lt hle' hlt'⟩
    · refine Or.inr ⟨hfail, fun a v' hv' => ?_⟩
      obtain ⟨hstuck', hle'⟩ := hstuck a v' hv'
      exact ⟨hstuck', Nat.le_of_lt (Nat.lt_of_le_of_lt hle' hlt')⟩
  · refine Or.inr ⟨fun a v hv => ?_, fun a v' hv' => ?_⟩
    · obtain ⟨x, u, hu, -⟩ := Reading.bind_eq_ok_iff.mp hv
      exact (hfail x u hu).elim
    · obtain ⟨x, u', hu', hv'⟩ := Reading.bind_eq_ok_iff.mp hv'
      obtain ⟨hstuck', hle'⟩ := hstuck x u' hu'
      obtain ⟨c', -, rfl⟩ := hsource hcons' hu'
      obtain ⟨hstuck₁, hle₁⟩ := hkeeps c' hstuck' a v' hv'
      exact ⟨hstuck₁, Nat.le_trans hle₁ hle'⟩

/-- Reading on over a token that is there, then in step. -/
theorem FollowsPast.skipToken {α : Type} {P : ReadState → Prop} {mode : Pairing}
    {s s' : ReadState} {m m' : Reading α} (h : Alongside mode s s') {t : Token} {ts : List Token}
    (hs : s.source.rest = t :: ts) (hm : Follows m m') :
    FollowsPast P mode s s' (Reading.nextToken >>= fun _ => m)
      (Reading.nextToken >>= fun _ => m') :=
  skipToken_bind h hs (fun _ _ _ hc => hm.along hc) fun _ => hm.keeps _

/-- Reading a token leaves less for the rounds of a loop that come after it. -/
theorem FollowsBelow.nextToken_bind {α : Type} {k k' : Nat} {f f' : Option Token → Reading α}
    (hnone : Fails (f none)) (hnone' : Fails (f' none))
    (hf : ∀ t, FollowsBelow k k' (f (some t)) (f' (some t))) :
    FollowsBelow (k + 1) (k' + 1) (Reading.nextToken >>= f) (Reading.nextToken >>= f') where
  follows {mode s s'} hs hlt hlt' := by
    refine FollowsAt.nextToken_bind hs hnone hnone' (fun t u u' hu hu' halong => ?_)
      fun t u' _ => (hf t).keeps u'
    have hleft : s.left = u.left + 1 := congrArg List.length hu
    have hleft' : s'.left = u'.left + 1 := congrArg List.length hu'
    exact (hf t).follows halong (by omega) (by omega)
  keeps s' := by
    refine (KeepsAt.nextToken s').bind fun x u' _ => ?_
    cases x with
    | none => exact fun _ a t ht => absurd ht (hnone' u' a t)
    | some t => exact (hf t).keeps u'

namespace Reading

variable {s : ReadState} {c : Char}

theorem accept_eq (c : Char) (s : ReadState) :
    accept c s = (if s.source.rest.head? = some (.plain c) then (do let _ ← nextToken; return true)
      else pure false : Reading Bool) s :=
  rfl

theorem accept_of_head (h : s.source.rest.head? = some (.plain c)) :
    accept c s = (do let _ ← nextToken; return true : Reading Bool) s := by
  rw [accept_eq, if_pos h]

theorem accept_of_not_head (h : s.source.rest.head? ≠ some (.plain c)) :
    accept c s = .ok (false, s) := by
  rw [accept_eq, if_neg h]
  rfl

/-- A character is taken off if it comes next, and nothing else changes. -/
theorem accept_eq_ok {b : Bool} {u : ReadState} (h : accept c s = .ok (b, u)) :
    (b = false ∧ u = s ∧ s.source.rest.head? ≠ some (.plain c)) ∨
      ∃ source, b = true ∧ s.source.rest = .plain c :: source.rest ∧
        u = { s with source := source } := by
  by_cases hhead : s.source.rest.head? = some (.plain c)
  · rw [accept_of_head hhead] at h
    obtain ⟨x, v, hv, hu⟩ := bind_eq_ok_iff.mp h
    cases hu
    rcases nextToken_eq_ok hv with ⟨hnil, -, -⟩ | ⟨t, source, hcons, -, rfl⟩
    · simp [hnil] at hhead
    · obtain rfl : t = .plain c := by simpa [hcons] using hhead
      exact Or.inr ⟨source, rfl, hcons, rfl⟩
  · rw [accept_of_not_head hhead] at h
    cases h
    exact Or.inl ⟨rfl, rfl, hhead⟩

theorem takeUpTo_of_span {n : Nat} {p : Char → Bool} {cs : Text} {rest : List Token}
    (h : spanPlain p n s.source.rest = (cs, rest)) :
    takeUpTo n p s =
      if cs = [] then .ok (cs, s)
      else (do moveTo rest (s.source.pos + cs.length); return cs : Reading Text) s := by
  have hread : takeUpTo n p s =
      (if !(spanPlain p n s.source.rest).1.isEmpty then
        (do
          moveTo (spanPlain p n s.source.rest).2
            (s.source.pos + (spanPlain p n s.source.rest).1.length)
          return (spanPlain p n s.source.rest).1)
      else return (spanPlain p n s.source.rest).1 : Reading Text) s := rfl
  rw [hread, h]
  cases cs <;> rfl

end Reading

namespace Follows

variable {α β : Type} {f f' : Option Token → Reading β}

/-- Reading a token where one must follow. -/
theorem nextToken_bind (hnone : Fails (f none)) (hnone' : Fails (f' none))
    (hf : ∀ t, Follows (f (some t)) (f' (some t))) :
    Follows (Reading.nextToken >>= f) (Reading.nextToken >>= f') := by
  intro mode s s' hs
  exact FollowsAt.nextToken_bind hs hnone hnone' (fun t u u' _ _ halong => hf t mode u u' halong)
    fun t u' _ => (hf t).keeps u'

/-- Reading a character if it comes next. -/
theorem accept {c : Char} (hc : c ≠ ')') : Follows (Reading.accept c) (Reading.accept c) := by
  intro mode s s' hs
  by_cases hhead : s.source.rest.head? = some (.plain c)
  · obtain ⟨ts, hts⟩ := List.head?_eq_some_iff.mp hhead
    obtain ⟨rest', hrest', -⟩ := hs.source.rest [.plain c] ts hts 0 0
    have hhead' : s'.source.rest.head? = some (.plain c) := by rw [hrest']; rfl
    have hfollows : FollowsAt (fun _ => False) mode s s'
        (do let _ ← Reading.nextToken; return true : Reading Bool)
        (do let _ ← Reading.nextToken; return true : Reading Bool) :=
      (FollowsAt.nextToken_of_cons hs hts).bind (fun _ t t' _ _ ht _ _ => .returns ht true)
        fun _ t' _ => .returns t' true
    unfold FollowsAt at hfollows ⊢
    rwa [Reading.accept_of_head hhead, Reading.accept_of_head hhead']
  · have hhead' : s'.source.rest.head? ≠ some (.plain c) := by
      cases mode with
      | enclosed =>
          rw [hs.source.1]
          cases hrest : s.source.rest with
          | nil => cases s.source.dangling <;> simp [enclosingTail, hc.symm]
          | cons t ts => simpa [hrest] using hhead
      | stuck => rwa [hs.source.1]
    exact .inStep (Reading.accept_of_not_head hhead) (Reading.accept_of_not_head hhead') hs
      (Nat.le_refl _) (Nat.le_refl _)

end Follows

namespace FollowsAt

variable {mode : Pairing} {s s' : ReadState}

/-- Reading characters up to one that the closing bracket is not among. -/
theorem takeUpTo (h : Alongside mode s s') {p : Char → Bool} (hp : p ')' = false) {n n' : Nat}
    (hn : spanPlain p n' s.source.rest = spanPlain p n s.source.rest) :
    FollowsAt (fun _ => False) mode s s' (Reading.takeUpTo n p) (Reading.takeUpTo n' p) := by
  rcases hspan : spanPlain p n s.source.rest with ⟨cs, rest⟩
  have hcut : s.source.rest = cs.map .plain ++ rest := (spanPlain_eq hspan).1
  have hspan' : ∃ rest', spanPlain p n' s'.source.rest = (cs, rest') := by
    cases mode with
    | enclosed =>
        rw [h.source.1, spanPlain_append hp, hn, hspan]
        exact ⟨_, rfl⟩
    | stuck =>
        rw [h.source.1, hn, hspan]
        exact ⟨_, rfl⟩
  obtain ⟨rest', hspan'⟩ := hspan'
  unfold FollowsAt
  rw [Reading.takeUpTo_of_span hspan, Reading.takeUpTo_of_span hspan']
  by_cases hcs : cs = []
  · rw [if_pos hcs, if_pos hcs]
    exact returns h cs (P := fun _ => False)
  · rw [if_neg hcs, if_neg hcs]
    obtain ⟨rest₁, hrest₁, hfollows⟩ := moveTo_bind (P := fun _ => False) h cs
      (s.source.pos + cs.length) (s'.source.pos + cs.length) hcut
    -- what follows the characters is what was found to follow them
    obtain rfl : rest₁ = rest' :=
      List.append_cancel_left (hrest₁.symm.trans ((spanPlain_eq hspan').1))
    exact hfollows

end FollowsAt

namespace Follows

variable {p : Char → Bool}

theorem takeUpTo (hp : p ')' = false) (n : Nat) :
    Follows (Reading.takeUpTo n p) (Reading.takeUpTo n p) :=
  fun _ _ _ hs => .takeUpTo hs hp rfl

/-- Reading all characters that are not the closing bracket or others. -/
theorem takeWhile (hp : p ')' = false) : Follows (Reading.takeWhile p) (Reading.takeWhile p) := by
  intro mode s s' hs
  have hlength : s.source.rest.length ≤ s'.source.rest.length := by
    obtain ⟨rest', hrest', -⟩ := hs.source.rest s.source.rest [] (by simp) 0 0
    rw [hrest', List.length_append]
    exact Nat.le_add_right _ _
  exact FollowsAt.takeUpTo hs hp (spanPlain_of_length_le p hlength)

end Follows

/-! ## Looking at the next token -/

/-- What the end of a pattern looks like when it is enclosed. -/
def closingToken (dangling : Bool) : Token :=
  if dangling then .escaped ')' else .plain ')'

/-- Looking at the next token.  The closing bracket must lead to what the end of the pattern leads
to. -/
theorem FollowsAt.peek_bind {α : Type} {P : ReadState → Prop} {mode : Pairing} {s s' : ReadState}
    {f f' : Option Token → Reading α} (h : Alongside mode s s')
    (hclosing : ∀ dangling, f' (some (closingToken dangling)) = f' none)
    (hend : FollowsAt P mode s s' (f none) (f' none))
    (hnext : ∀ t ts, s.source.rest = t :: ts → FollowsAt P mode s s' (f (some t)) (f' (some t))) :
    FollowsAt P mode s s' (Reading.peek >>= f) (Reading.peek >>= f') := by
  have hread : (Reading.peek >>= f) s = f s.source.rest.head? s := rfl
  have hread' : (Reading.peek >>= f') s' = f' s'.source.rest.head? s' := rfl
  unfold FollowsAt at hend hnext ⊢
  rw [hread, hread']
  cases hrest : s.source.rest with
  | nil =>
      have hhead' : f' s'.source.rest.head? = f' none := by
        cases mode with
        | enclosed =>
            rw [h.source.1, hrest]
            exact hclosing s.source.dangling
        | stuck => rw [h.source.1, hrest, List.head?_nil]
      rw [hhead']
      exact hend
  | cons t ts =>
      obtain ⟨rest', hrest', -⟩ := h.source.rest [t] ts hrest 0 0
      rw [hrest', List.head?_cons, List.singleton_append, List.head?_cons]
      exact hnext t ts hrest

/-! ## Through a character -/

namespace Reading

variable {s : ReadState}

/-- Where the terminator of a name is missing, reading the name fails. -/
theorem readName_ne_ok {terminator : Char} {kind : NameKind}
    (h : splitAtPlain terminator s.source.rest = none) (a : Text) (t : ReadState) :
    readName terminator kind s ≠ .ok (a, t) := by
  intro hok
  unfold readName at hok
  obtain ⟨u, v, hu, hv⟩ := bind_eq_ok_iff.mp hok
  cases hu
  rw [h] at hv
  obtain ⟨-, v, -, hv⟩ := bind_eq_ok_iff.mp hv
  split at hv
  · exact Fails.failBack _ _ _ _ _ hv
  · exact Fails.failBack _ _ _ _ _ hv

theorem readName_of_split {terminator : Char} {kind : NameKind} {before after : List Token}
    (h : splitAtPlain terminator s.source.rest = some (before, after)) :
    readName terminator kind s =
      (do
        moveTo after (s.source.pos + (tokensText before).length + 1)
        if (tokensText before).isEmpty then failBack 1 (.missingName kind)
        return tokensText before : Reading Text) s := by
  unfold readName
  rw [bind_of_eq_ok (a := s) (t := s) rfl, h]

theorem skipThrough_of_split {c : Char} {before after : List Token}
    (h : splitAtPlain c s.source.rest = some (before, after)) :
    skipThrough c s =
      (do
        moveTo after (s.source.pos + (tokensText before).length + 1)
        return true : Reading Bool) s := by
  unfold skipThrough
  rw [bind_of_eq_ok (a := s) (t := s) rfl, h]

theorem skipThrough_of_not_split {c : Char} (h : splitAtPlain c s.source.rest = none) :
    skipThrough c s = (do skipAll; return false : Reading Bool) s := by
  unfold skipThrough
  rw [bind_of_eq_ok (a := s) (t := s) rfl, h]

end Reading

namespace Alongside

variable {mode : Pairing} {s s' : ReadState} {c : Char} {before after : List Token}

/-- A character that is found in the pattern is found in the enclosed pattern. -/
theorem split_of_split (h : Alongside mode s s')
    (hsplit : splitAtPlain c s.source.rest = some (before, after)) :
    ∃ after', splitAtPlain c s'.source.rest = some (before, after') ∧
      ∀ pos pos', mode.Sources { s.source with rest := after, pos := pos }
        { s'.source with rest := after', pos := pos' } := by
  have hrest := (splitAtPlain_eq_some hsplit).1
  cases mode with
  | enclosed =>
      obtain ⟨htail, hdangling⟩ := h.source
      exact ⟨after ++ enclosingTail s.source.dangling,
        by rw [htail, splitAtPlain_append_of_some hsplit], fun _ _ => ⟨rfl, hdangling⟩⟩
  | stuck =>
      obtain ⟨hsame, hdangling, hclosing⟩ := h.source
      refine ⟨after, by rw [hsame, hsplit], fun _ _ => ⟨rfl, hdangling, ?_⟩⟩
      intro hmem
      exact hclosing (by rw [hrest]; exact List.mem_append_right _ (List.mem_cons_of_mem _ hmem))

/-- A character that is only found after the pattern leaves no closing bracket behind it. -/
theorem closing_not_mem_of_split (h : Alongside mode s s')
    (hsplit : splitAtPlain c s.source.rest = none)
    (hsplit' : splitAtPlain c s'.source.rest = some (before, after)) : .plain ')' ∉ after := by
  cases mode with
  | enclosed =>
      rw [h.source.1, splitAtPlain_append_of_none hsplit] at hsplit'
      obtain ⟨⟨tail, rest⟩, htail, heq⟩ := Option.map_eq_some_iff.mp hsplit'
      cases heq
      have hrest : enclosingTail s.source.dangling = tail ++ .plain c :: rest :=
        (splitAtPlain_eq_some htail).1
      -- what was found is the bracket itself
      cases tail with
      | nil =>
          obtain ⟨-, hrest⟩ := List.cons.inj hrest
          rw [← hrest]
          simp
      | cons t tail =>
          obtain ⟨-, hrest⟩ := List.cons.inj hrest
          have hlast : .plain c ∈ [Token.escaped 'b'] :=
            hrest ▸ List.mem_append_right tail (by simp)
          simp at hlast
  | stuck =>
      rw [h.source.1, hsplit] at hsplit'
      cases hsplit'

end Alongside

namespace FollowsAt

variable {α β : Type} {P : ReadState → Prop} {mode : Pairing} {s s' : ReadState}

/-- Reading through a character that must be there.  Beyond the end of the pattern it is the closing
bracket, or what is enclosed fails as well. -/
theorem through {m m' : Reading α} (h : Alongside mode s s') {c : Char} {k k' : List Token → Nat}
    {f f' : List Token → Reading α} (hf : ∀ before, Follows (f before) (f' before))
    (hm : ∀ before after, splitAtPlain c s.source.rest = some (before, after) →
      m s = (do Reading.moveTo after (k before); f before : Reading α) s)
    (hm' : ∀ before after, splitAtPlain c s'.source.rest = some (before, after) →
      m' s' = (do Reading.moveTo after (k' before); f' before : Reading α) s')
    (hend : splitAtPlain c s.source.rest = none → ∀ a t, m s ≠ .ok (a, t))
    (hend' : splitAtPlain c s'.source.rest = none → ∀ a t, m' s' ≠ .ok (a, t)) :
    FollowsAt P mode s s' m m' := by
  cases hsplit : splitAtPlain c s.source.rest with
  | some r =>
      obtain ⟨before, after⟩ := r
      obtain ⟨after', hsplit', hsource⟩ := h.split_of_split hsplit
      have hfollows := (moveTo h (hsource (k before) (k' before))
          (length_le_of_splitAtPlain hsplit) (length_le_of_splitAtPlain hsplit')).bind
        (fun _ t t' _ _ ht _ _ => hf before mode t t' ht) fun _ t' _ => (hf before).keeps t'
      unfold FollowsAt at hfollows
      rw [← hm before after hsplit, ← hm' before after' hsplit'] at hfollows
      exact mono hfollows fun _ => False.elim
  | none =>
      refine of_fails (hend hsplit) fun a t' ht' => ?_
      cases hsplit' : splitAtPlain c s'.source.rest with
      | none => exact absurd ht' (hend' hsplit' a t')
      | some r =>
          obtain ⟨before, after⟩ := r
          rw [hm' before after hsplit'] at ht'
          obtain ⟨x, u, hu, hu'⟩ := Reading.bind_eq_ok_iff.mp ht'
          obtain rfl := Reading.eq_of_moveTo hu
          have hstuck : ReadState.Stuck { s' with
              source := { s'.source with rest := after, pos := k' before } } :=
            ⟨h.closing_not_mem_of_split hsplit hsplit', h.brackets_ne_nil⟩
          obtain ⟨hstuck', hle⟩ := (hf before).keeps _ hstuck a t' hu'
          exact ⟨hstuck', Nat.le_trans hle (length_le_of_splitAtPlain hsplit')⟩

end FollowsAt

namespace Follows

theorem readName (terminator : Char) (kind : NameKind) :
    Follows (Reading.readName terminator kind) (Reading.readName terminator kind) := by
  intro mode s s' hs
  refine FollowsAt.through hs (f := fun before => do
      if (tokensText before).isEmpty then Reading.failBack 1 (.missingName kind)
      return tokensText before) (fun before => ?_)
    (fun _ _ hsplit => Reading.readName_of_split hsplit)
    (fun _ _ hsplit => Reading.readName_of_split hsplit)
    (fun hsplit => Reading.readName_ne_ok hsplit) fun hsplit => Reading.readName_ne_ok hsplit
  exact checked (.failBack _ _) (.failBack _ _) (returns _)

end Follows

end TextShell
