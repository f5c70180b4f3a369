import TextShell.Proofs.Pattern.Boundaries
import TextShell.Proofs.Pattern.Start
import TextShell.Proofs.Pattern.Whole
import TextShell.Grep.Filter

/-!
# A pattern alone and enclosed

What becomes of a pattern that is put between two boundaries follows from what becomes of it alone
(`Regex.compile_compared`).  The readings stay in step up to the end of the pattern, or to the first
element at which they part, and then the enclosed reading fails or is stuck (`outcome`).  At the
end, if all brackets of the pattern are closed, what was put after it closes the one around it, and
what was read is the pattern between two boundaries (`Alongside.closes`).

Two things set the readings apart.  Where the pattern closes a bracket too many, reading it alone
ends in a complaint; what reading it enclosed makes of the rest is not followed here.  And where it
opens with flags for the whole pattern, reading it alone goes on, while enclosed they are refused
(`Regex.compile_wholeWords_ne_ok`).

## Main Definitions

* `Outcome` — what becomes of reading a pattern alone and enclosed
* `Regex.enclosedStart` — the state before the inside of an enclosed pattern
* `Regex.Compared` — two ways to make a pattern ready, compared
-/

namespace TextShell

/-- A stuck reading stays so up to the end. -/
theorem KeepsAt.readElements (n : Nat) (s : ReadState) : KeepsAt s (Reading.readElements n) := by
  induction n generalizing s with
  | zero => exact .returns s ()
  | succ n ih =>
      intro hs a u hu
      cases hrest : s.source.rest with
      | nil =>
          rw [Reading.readElements_of_nil hrest] at hu
          cases hu
          exact ⟨hs, Nat.le_refl _⟩
      | cons t ts =>
          have hbalanced : t = .plain ')' → s.brackets ≠ [] := fun _ => hs.2
          rw [Reading.readElements_succ hrest hbalanced] at hu
          have hkeeps : KeepsAt s (Reading.readElement t) :=
            FollowsAt.keeps fun hs =>
              (FollowsPast.readElement (.of_stuck hs) hrest hbalanced).follows
          exact hkeeps.bind (fun _ v _ => ih v) hs a u hu

/-- What becomes of reading a pattern alone and enclosed. -/
inductive Outcome (n n' : Nat) (s s' : ReadState) : Prop
  /-- The pattern is read to its end, and what encloses it is left to read. -/
  | ends {t t' : ReadState} {k : Nat} (ht : Reading.readElements n s = .ok ((), t))
      (ht' : Reading.readElements n' s' = Reading.readElements k t')
      (halong : Alongside .enclosed t t') (hrest : t.source.rest = []) (hk : t'.left < k)
  /-- The pattern has a closing bracket too many. -/
  | unbalanced {t : ReadState} {ts : List Token} (ht : Reading.readElements n s = .ok ((), t))
      (hrest : t.source.rest = .plain ')' :: ts) (hbrackets : t.brackets = [])
      (halphabet : ¬(t.flags.ascii = true ∧ t.flags.unicode = true))
  /-- The pattern fails or ends inside of a bracket, if it does not choose flags for itself, and
  enclosed it fails or is stuck. -/
  | fails
      (hfails : ∀ a t, Reading.readElements n s = .ok (a, t) →
        (s.AtStart → ¬OpensWithFlags s.source.rest) → t.source.rest = [] ∧ t.brackets ≠ [])
      (hstuck : ∀ a t', Reading.readElements n' s' = .ok (a, t') → t'.Stuck)

namespace Alongside

variable {n n' : Nat} {s s' : ReadState}

/-- Blanks are skipped inside of brackets only. -/
theorem brackets_ne_nil_of_verbose (h : Alongside .enclosed s s') (hs : s.level.verbose = true) :
    s.brackets ≠ [] := by
  intro hbrackets
  have hbottom := h.bottom rfl
  simp [ReadState.bottom, hbrackets, hs] at hbottom

/-- One element more before the rest. -/
theorem outcome_succ (h : Alongside .enclosed s s') {t : Token} {ts : List Token}
    (hrest : s.source.rest = t :: ts) (hbalanced : t = .plain ')' → s.brackets ≠ [])
    (ih : ∀ {u u'}, Alongside .enclosed u u' → u.left < s.left → u'.left < s'.left →
      Outcome n n' u u') : Outcome (n + 1) (n' + 1) s s' := by
  obtain ⟨ts', hrest', -⟩ := h.source.rest [t] ts hrest 0 0
  have hread := Reading.readElements_succ hrest hbalanced n
  have hread' := Reading.readElements_succ hrest' (fun _ => h.brackets_ne_nil) n'
  have hstart : ∀ {a u}, Reading.readElement t s = .ok (a, u) → u.AtStart →
      s.AtStart ∧ (OpensWithFlags u.source.rest → OpensWithFlags s.source.rest) :=
    fun hu => Reading.readElement_atStart hrest h.brackets_ne_nil_of_verbose hu
  rcases FollowsPast.readElement h hrest hbalanced with
    ⟨⟨⟩, u, u', hu, hu', halong, hlt, hlt'⟩ | ⟨hends, hstuck⟩
  · rw [Reading.bind_of_eq_ok hu] at hread
    rw [Reading.bind_of_eq_ok hu'] at hread'
    cases ih halong hlt hlt' with
    | ends ht ht' halong hrest hk => exact .ends (hread.trans ht) (hread'.trans ht') halong hrest hk
    | unbalanced ht hrest hbrackets halphabet =>
        exact .unbalanced (hread.trans ht) hrest hbrackets halphabet
    | fails hfails hstuck =>
        refine .fails (fun a v hv hflags => hfails a v (hread ▸ hv) fun hustart hopens => ?_)
          fun a v' hv' => hstuck a v' (hread' ▸ hv')
        obtain ⟨hsstart, hback⟩ := hstart hu hustart
        exact hflags hsstart (hback hopens)
  · refine .fails (fun a v hv hflags => ?_) fun a v' hv' => ?_
    · rw [hread] at hv
      obtain ⟨x, u, hu, hv⟩ := Reading.bind_eq_ok_iff.mp hv
      rcases hends x u hu with ⟨hnil, hbrackets⟩ | ⟨hustart, rfl, flags, rfl, hchooses⟩
      · rw [Reading.readElements_of_nil hnil] at hv
        cases hv
        exact ⟨hnil, hbrackets⟩
      · exact absurd (hrest ▸ .flags hchooses) (hflags (hstart hu hustart).1)
    · rw [hread'] at hv'
      obtain ⟨x, u', hu', hv'⟩ := Reading.bind_eq_ok_iff.mp hv'
      exact (KeepsAt.readElements n' u' (hstuck x u' hu').1 a v' hv').1

end Alongside

/-- Reading a pattern alone and enclosed. -/
theorem outcome {n n' : Nat} {s s' : ReadState} (hs : Alongside .enclosed s s') (hn : s.left < n)
    (hn' : s'.left < n') : Outcome n n' s s' := by
  induction n generalizing n' s s' with
  | zero => exact absurd hn (Nat.not_lt_zero _)
  | succ n ih =>
      cases hrest : s.source.rest with
      | nil => exact .ends (Reading.readElements_of_nil hrest _) rfl hs hrest hn'
      | cons t ts =>
          by_cases hunbalanced : t = .plain ')' ∧ s.brackets = []
          · obtain ⟨rfl, hbrackets⟩ := hunbalanced
            exact .unbalanced (Reading.readElements_unbalanced hrest hbrackets _) hrest hbrackets
              (hs.alphabet rfl)
          have hbalanced : t = .plain ')' → s.brackets ≠ [] := by simpa using hunbalanced
          cases n' with
          | zero => exact absurd hn' (Nat.not_lt_zero _)
          | succ n' =>
              exact hs.outcome_succ hrest hbalanced fun hu hlt hlt' => ih hu (by omega) (by omega)

/-! ## What encloses a pattern -/

namespace Alongside

variable {t t' v : ReadState} {k : Nat}

theorem rest_of_nil (h : Alongside .enclosed t t') (hrest : t.source.rest = []) :
    t'.source.rest = [.plain ')', .escaped 'b'] ∧ t'.source.dangling = false := by
  obtain ⟨hrest', hdangling⟩ := h.source
  rw [hrest, h.ended rfl hrest] at hrest'
  exact ⟨hrest', hdangling⟩

/-- A bracket of the pattern that is open in the end takes the closing bracket. -/
theorem stuck_of_open (h : Alongside .enclosed t t') (hrest : t.source.rest = [])
    (hopen : t.brackets ≠ []) (hk : t'.left < k) {a : Unit}
    (hv : Reading.readElements k t' = .ok (a, v)) : v.Stuck := by
  obtain ⟨hrest', -⟩ := h.rest_of_nil hrest
  obtain ⟨b, bs, hb⟩ := List.exists_cons_of_ne_nil hopen
  obtain ⟨b', bs', hb', -, hbs⟩ := Pairing.Brackets.exists_cons (hb ▸ h.brackets)
  obtain ⟨k, rfl⟩ := Nat.exists_eq_add_one_of_ne_zero (Nat.ne_of_gt (Nat.zero_lt_of_lt hk))
  rw [Reading.readElements_succ hrest' fun _ => h.brackets_ne_nil] at hv
  obtain ⟨x, u, hu, hv⟩ := Reading.bind_eq_ok_iff.mp hv
  refine (KeepsAt.readElements k u ?_ a v hv).1
  rw [Reading.readElement_close hb'] at hu
  obtain ⟨y, w, hw, hu⟩ := Reading.bind_eq_ok_iff.mp hu
  rcases Reading.nextToken_eq_ok hw with ⟨hnil, -, -⟩ | ⟨t₁, source, hcons, -, rfl⟩
  · simp [hrest'] at hnil
  have hlast : source.rest = [.escaped 'b'] := (List.cons.inj (hcons.symm.trans hrest')).2
  have hstuck : ReadState.Stuck { t' with source := source } :=
    ⟨by simp [hlast], h.brackets_ne_nil⟩
  exact (KeepsAt.endGroup (s := { t' with source := source }) hb' hbs.ne_nil hstuck x u hu).1

/-- Outside of all brackets the closing bracket is that of the pattern as a whole. -/
theorem closes (h : Alongside .enclosed t t') (hrest : t.source.rest = [])
    (hclosed : t.brackets = []) (hk : t'.left < k) :
    ∃ v, Reading.readElements k t' = .ok ((), v) ∧ v.source.rest = [] ∧ v.brackets = [] ∧
      v.flags = t.flags ∧ v.groups = t.groups ∧
      v.promises.map Prod.fst = t.promises.map Prod.fst ∧
      v.level.pattern = t.level.pattern.betweenBoundaries := by
  obtain ⟨hrest', hdangling⟩ := h.rest_of_nil hrest
  have hleft : t'.left = 2 := congrArg List.length hrest'
  obtain ⟨k, rfl⟩ : ∃ n, k = n + 3 := ⟨k - 3, by omega⟩
  obtain ⟨b', hb', hshape⟩ := Pairing.Brackets.eq_enclosing (hclosed ▸ h.brackets)
  have hflags := h.flags
  have hgroups := h.groups
  have hpromised := h.promised
  have hlevel := h.level
  obtain ⟨⟨pattern, dangling, rest, pos⟩, flags, groups, bound, promises, level, brackets⟩ := t'
  obtain ⟨opener, start, outer⟩ := b'
  obtain ⟨rfl, rfl⟩ : opener = .plain ∧ outer = _ := Prod.mk.inj hshape
  dsimp only at hrest' hdangling hb' hflags hgroups hpromised hlevel
  subst hrest' hdangling hb' hflags hgroups hlevel
  exact ⟨_, rfl, rfl, rfl, rfl, rfl, hpromised, rfl⟩

end Alongside

namespace Reading

variable {s u : ReadState} {a : Unit}

/-- Flags after comments are refused. -/
theorem readElements_of_opensWithFlags {ts : List Token} (h : OpensWithFlags ts) {tail : List Token}
    (hs : s.source.rest = ts ++ tail) (hbrackets : s.brackets ≠ [])
    (hverbose : s.level.verbose = false) {n : Nat} (hn : s.left < n) :
    readElements n s ≠ .ok (a, u) := by
  intro hu
  obtain ⟨n, rfl⟩ := Nat.exists_eq_add_one_of_ne_zero (Nat.ne_of_gt (Nat.zero_lt_of_lt hn))
  induction h generalizing n s with
  | @flags ts hflags =>
      rw [readElements_succ hs fun _ => hbrackets] at hu
      obtain ⟨x, v, hv, -⟩ := bind_eq_ok_iff.mp hu
      obtain ⟨start, source, t, hts, hv⟩ := openExtension_of_readElement hs hverbose hv
      obtain ⟨letters, rest, rfl, hne, hall⟩ := hflags
      have hchooses : ChoosesFlags (t :: source.rest) :=
        ⟨letters, rest ++ tail, by rw [← hts]; simp, hne, hall⟩
      have hflag : t.flag?.isSome = true := by
        obtain ⟨letter, letters, rfl⟩ := List.exists_cons_of_ne_nil hne
        obtain ⟨rfl, -⟩ := List.cons.inj hts
        exact hall letter List.mem_cons_self
      rw [openExtension_of_flag hflag] at hv
      exact openFlags_ne_ok (s := { s with source := source }) hchooses hbrackets hv
  | @comment text rest htext hrest ih =>
      rw [readElements_succ hs fun _ => hbrackets] at hu
      obtain ⟨x, v, hv, hu⟩ := bind_eq_ok_iff.mp hu
      obtain ⟨start, source, t, hts, hv⟩ := openExtension_of_readElement hs hverbose hv
      obtain ⟨rfl, hsource⟩ := List.cons.inj hts
      have hcomment : openComment start { s with source := source } = .ok (x, v) := hv
      obtain ⟨source', text', rfl, hrest', htext'⟩ := openComment_eq_ok hcomment
      -- the comment ends at the first closing bracket, before the rest
      have hcut : text ++ .plain ')' :: (rest ++ tail) = text' ++ .plain ')' :: source'.rest := by
        rw [← hrest', ← hsource]
        simp
      have hend : rest ++ tail = source'.rest :=
        (append_cons_inj (P := fun t => t ≠ .plain ')') hcut (fun t ht heq => htext (heq ▸ ht))
          (fun t ht heq => htext' (heq ▸ ht)) (not_not_intro rfl) (not_not_intro rfl)).2
      have hlt : source'.rest.length < n := by
        have hleft : s.left = (rest ++ tail).length + text.length + 4 := by
          rw [ReadState.left, hs]
          simp
          omega
        rw [← hend]
        omega
      obtain ⟨n, rfl⟩ := Nat.exists_eq_add_one_of_ne_zero (Nat.ne_of_gt (Nat.zero_lt_of_lt hlt))
      exact ih (s := { s with source := source' }) hend.symm hbrackets hverbose n hlt hu

end Reading

/-! ## The text of an enclosed pattern -/

theorem wholeWords_eq (p : Text) :
    wholeWords p = '\\' :: 'b' :: '(' :: '?' :: ':' :: (p ++ [')', '\\', 'b']) := by
  have hopen : "\\b(?:".toList = ['\\', 'b', '(', '?', ':'] := by decide
  have hclose : ")\\b".toList = [')', '\\', 'b'] := by decide
  calc
    wholeWords p = "\\b(?:".toList ++ p ++ ")\\b".toList := rfl
    _ = ['\\', 'b', '(', '?', ':'] ++ p ++ ")\\b".toList :=
      congrArg (fun l => l ++ p ++ ")\\b".toList) hopen
    _ = ['\\', 'b', '(', '?', ':'] ++ p ++ [')', '\\', 'b'] :=
      congrArg (fun l => ['\\', 'b', '(', '?', ':'] ++ p ++ l) hclose
    _ = '\\' :: 'b' :: '(' :: '?' :: ':' :: (p ++ [')', '\\', 'b']) := List.append_assoc _ _ _

theorem Token.ofText_cons_of_ne {c : Char} (hc : c ≠ '\\') (cs : Text) :
    Token.ofText (c :: cs) = (.plain c :: (Token.ofText cs).1, (Token.ofText cs).2) := by
  rw [Token.ofText]
  · intro heq
    exact absurd heq hc
  · intro c' cs' heq
    exact absurd heq hc

/-- The tokens of an enclosed pattern. -/
theorem Token.ofText_enclosed (p : Text) :
    Token.ofText (p ++ [')', '\\', 'b']) =
      ((Token.ofText p).1 ++ enclosingTail (Token.ofText p).2, false) := by
  induction p using Token.ofText.induct with
  | case1 => rfl
  | case2 => rfl
  | case3 c cs ts dangling hcs ih =>
      rw [List.cons_append, List.cons_append, Token.ofText, ih, Token.ofText, hcs]
      rfl
  | case4 c cs hlone hescape ts dangling hcs ih =>
      have hc : c ≠ '\\' := by
        rintro rfl
        cases cs with
        | nil => exact hlone rfl rfl
        | cons c' cs' => exact hescape c' cs' rfl rfl
      rw [List.cons_append, ofText_cons_of_ne hc, ih, ofText_cons_of_ne hc]
      rfl

theorem Token.ofText_wholeWords (p : Text) :
    Token.ofText (wholeWords p) =
      (.escaped 'b' :: .plain '(' :: .plain '?' :: .plain ':' ::
        ((Token.ofText p).1 ++ enclosingTail (Token.ofText p).2), false) := by
  rw [wholeWords_eq, ofText, ofText_cons_of_ne (by decide), ofText_cons_of_ne (by decide),
    ofText_cons_of_ne (by decide), ofText_enclosed]

namespace Regex

/-- The flags that a command chooses. -/
def caseFlags (ignoreCase : Bool) : Flags :=
  { ignoreCase := ignoreCase }

/-- The state before the inside of an enclosed pattern. -/
def enclosedStart (ignoreCase : Bool) (p : Text) : ReadState where
  source :=
    { pattern := wholeWords p
      dangling := false
      rest := (Token.ofText p).1 ++ enclosingTail (Token.ofText p).2
      pos := 5 }
  flags := caseFlags ignoreCase
  brackets :=
    [⟨.plain, 2, { parts := [{ pattern := .anchor .boundary, quantifiable := .anchor }] }⟩]

theorem readElements_wholeWords (ignoreCase : Bool) (p : Text) (n : Nat) :
    Reading.readElements (n + 2) (start (caseFlags ignoreCase) (wholeWords p)) =
      Reading.readElements n (enclosedStart ignoreCase p) := by
  obtain ⟨t, ts, hts⟩ : ∃ t ts, (Token.ofText p).1 ++ enclosingTail (Token.ofText p).2 = t :: ts :=
    List.exists_cons_of_ne_nil (by simp [enclosingTail])
  unfold start enclosedStart
  rw [Token.ofText_wholeWords, hts]
  rfl

/-! ## Reading a pattern with and without what encloses it -/

/-- What becomes of two ways to make a pattern ready. -/
inductive Compared (p : Text) (alone enclosed : Except PatternError Regex) : Prop
  /-- Both succeed. -/
  | both (r : Regex) (halone : alone = .ok r) (henclosed : enclosed = .ok r.betweenBoundaries)
  /-- The pattern closes a bracket that it did not open. -/
  | unbalanced (place : Option Place) (halone : alone = .error (.malformed .unbalanced place))
  /-- Enclosing the pattern fails, and the pattern alone fails unless it opens with flags. -/
  | fails (henclosed : ∀ r, enclosed ≠ .ok r)
      (halone : ∀ r, alone = .ok r → OpensWithFlags (Token.ofText p).1)

/-- A pattern and its enclosed form before they are read. -/
theorem alongside_start (ignoreCase : Bool) {p : Text}
    (hp : (Token.ofText p).1 = [] → (Token.ofText p).2 = false) :
    Alongside .enclosed (start (caseFlags ignoreCase) p) (enclosedStart ignoreCase p) where
  source := ⟨rfl, rfl⟩
  brackets := rfl
  flags := rfl
  alphabet := fun _ => by simp [start, caseFlags]
  groups := rfl
  bound := rfl
  promised := rfl
  level := rfl
  ended := fun _ => hp
  bottom := fun _ => rfl

theorem read_wholeWords_eq (ignoreCase : Bool) (p : Text) :
    read (caseFlags ignoreCase) (wholeWords p) =
      ((Reading.readElements ((enclosedStart ignoreCase p).left + 3) >>= fun _ => finish)
        (enclosedStart ignoreCase p)).map Prod.fst := by
  have hp : (Token.ofText (wholeWords p)).1 = [] → (Token.ofText (wholeWords p)).2 = false := by
    rw [Token.ofText_wholeWords]
    exact fun _ => rfl
  have hlength : (Token.ofText (wholeWords p)).1.length + 1 =
      (enclosedStart ignoreCase p).left + 3 + 2 := by
    rw [Token.ofText_wholeWords]
    rfl
  rw [read_eq _ hp, hlength, Reading.bind_congr_at (readElements_wholeWords ignoreCase p _)]

theorem compared_of_ends {p : Text} {m m' : Reading Unit} {s s' t t' : ReadState} {k : Nat}
    (ht : m s = .ok ((), t)) (ht' : m' s' = Reading.readElements k t')
    (halong : Alongside .enclosed t t') (hrest : t.source.rest = []) (hk : t'.left < k) :
    Compared p (((m >>= fun _ => finish) s).map Prod.fst)
      (((m' >>= fun _ => finish) s').map Prod.fst) := by
  by_cases hclosed : t.brackets = []
  · obtain ⟨v, hv, hvrest, hvbrackets, hvflags, hvgroups, hvpromised, hvlevel⟩ :=
      halong.closes hrest hclosed hk
    have hfinish : ∀ {r}, finish v = .ok (r, v) → finish t = .ok (ofState t, t) := by
      intro r hr
      obtain ⟨-, halphabet, -, hpromised, -⟩ := finish_eq_ok_iff.mp hr
      rw [hvflags] at halphabet
      rw [hvpromised, hvgroups] at hpromised
      exact finish_eq_ok_iff.mpr ⟨hclosed, halphabet, hrest, hpromised, rfl, rfl⟩
    by_cases hok : finish t = .ok (ofState t, t)
    · obtain ⟨-, halphabet, -, hpromised, -⟩ := finish_eq_ok_iff.mp hok
      have hsame : ofState v = (ofState t).betweenBoundaries := by
        rw [ofState, ofState, betweenBoundaries, hvflags, hvlevel, hvgroups,
          Pattern.least_betweenBoundaries]
      refine .both (ofState t) (read_eq_ok_iff.mpr ⟨t, ht, hok⟩)
        (read_eq_ok_iff.mpr ⟨v, ht'.trans hv, ?_⟩)
      refine finish_eq_ok_iff.mpr ⟨hvbrackets, ?_, hvrest, ?_, hsame.symm, rfl⟩
      · rwa [hvflags]
      · rwa [hvpromised, hvgroups]
    · refine .fails (fun r hr => ?_) fun r hr => ?_
      · obtain ⟨w, hw, hr⟩ := read_eq_ok_iff.mp hr
        rw [ht', hv] at hw
        cases hw
        exact hok (hfinish hr)
      · obtain ⟨w, hw, hr⟩ := read_eq_ok_iff.mp hr
        rw [ht] at hw
        cases hw
        obtain ⟨-, -, -, -, rfl, -⟩ := finish_eq_ok_iff.mp hr
        exact absurd hr hok
  · refine .fails (fun r hr => ?_) fun r hr => ?_
    · obtain ⟨w, hw, hr⟩ := read_eq_ok_iff.mp hr
      exact (halong.stuck_of_open hrest hclosed hk (ht' ▸ hw)).2 (finish_eq_ok_iff.mp hr).1
    · obtain ⟨w, hw, hr⟩ := read_eq_ok_iff.mp hr
      rw [ht] at hw
      cases hw
      exact absurd (finish_eq_ok_iff.mp hr).1 hclosed

theorem read_compared (ignoreCase : Bool) (p : Text) :
    Compared p (read (caseFlags ignoreCase) p) (read (caseFlags ignoreCase) (wholeWords p)) := by
  by_cases hp : (Token.ofText p).1 = [] → (Token.ofText p).2 = false
  · have halong := alongside_start ignoreCase hp
    rw [read_eq _ hp, read_wholeWords_eq]
    have hleft : (start (caseFlags ignoreCase) p).left < (Token.ofText p).1.length + 1 :=
      Nat.lt_succ_self _
    have hleft' : (enclosedStart ignoreCase p).left < (enclosedStart ignoreCase p).left + 3 := by
      omega
    cases outcome halong hleft hleft' with
    | ends ht ht' halong hrest hk => exact compared_of_ends ht ht' halong hrest hk
    | unbalanced ht hrest hbrackets halphabet =>
        obtain ⟨place, hplace⟩ := finish_unbalanced hrest hbrackets halphabet
        refine .unbalanced place ?_
        rw [Reading.bind_of_eq_ok ht, hplace]
        rfl
    | fails hfails hstuck =>
        refine .fails (fun r hr => ?_) fun r hr => ?_
        · obtain ⟨t', ht', hfinish⟩ := read_eq_ok_iff.mp hr
          exact (hstuck () t' ht').2 (finish_eq_ok_iff.mp hfinish).1
        · obtain ⟨t, ht, hfinish⟩ := read_eq_ok_iff.mp hr
          refine Classical.byContradiction fun hflags => ?_
          exact (hfails () t ht fun _ => hflags).2 (finish_eq_ok_iff.mp hfinish).1
  · obtain ⟨hnil, hlone⟩ := Classical.not_imp.mp hp
    have hdangling : (Token.ofText p).2 = true := eq_true_of_ne_false hlone
    refine .fails (fun r hr => ?_) fun r hr => absurd hr (read_ne_ok hnil hdangling _ r)
    -- the lone backslash takes the closing bracket with it
    have hstuck : (enclosedStart ignoreCase p).Stuck :=
      ⟨by simp [enclosedStart, hnil, hdangling, enclosingTail], List.cons_ne_nil _ _⟩
    rw [read_wholeWords_eq] at hr
    obtain ⟨t', ht', hfinish⟩ := read_eq_ok_iff.mp hr
    exact (KeepsAt.readElements _ _ hstuck () t' ht').1.2 (finish_eq_ok_iff.mp hfinish).1

/-- What is checked last does not tell a pattern from the same between boundaries. -/
theorem compile_eq_ok_iff_of_read {flags : Flags} {p p' : Text} {r q : Regex}
    (hr : read flags p = .ok r) (hr' : read flags p' = .ok r.betweenBoundaries) :
    compile flags p' = .ok q ↔ compile flags p = .ok r ∧ q = r.betweenBoundaries := by
  have hcomplaint := Pattern.complaint?_betweenBoundaries r.flags.template r.pattern
  have hfar := Pattern.looksTooFar_betweenBoundaries r.pattern
  rw [compile_eq_ok_iff, compile_eq_ok_iff, hr, hr']
  constructor
  · rintro ⟨hq, hnone, hnear⟩
    cases hq
    exact ⟨⟨rfl, hcomplaint ▸ hnone, hfar ▸ hnear⟩, rfl⟩
  · rintro ⟨⟨-, hnone, hnear⟩, rfl⟩
    exact ⟨rfl, hcomplaint.trans hnone, hfar.trans hnear⟩

/-- Making a pattern ready, alone and enclosed. -/
theorem compile_compared (ignoreCase : Bool) (p : Text) :
    Compared p (compile (caseFlags ignoreCase) p)
      (compile (caseFlags ignoreCase) (wholeWords p)) := by
  cases read_compared ignoreCase p with
  | both r halone henclosed =>
      cases hcompiled : compile (caseFlags ignoreCase) p with
      | ok q =>
          obtain rfl : r = q :=
            Except.ok.inj (halone.symm.trans (compile_eq_ok_iff.mp hcompiled).1)
          exact .both r rfl ((compile_eq_ok_iff_of_read halone henclosed).mpr ⟨hcompiled, rfl⟩)
      | error e =>
          refine .fails (fun q hq => ?_) nofun
          have hready := ((compile_eq_ok_iff_of_read halone henclosed).mp hq).1
          rw [hcompiled] at hready
          cases hready
  | unbalanced place halone =>
      refine .unbalanced place ?_
      rw [compile, halone]
  | fails henclosed halone =>
      exact .fails (fun r hr => henclosed r (compile_eq_ok_iff.mp hr).1)
        fun r hr => halone r (compile_eq_ok_iff.mp hr).1

/-- Flags for the whole pattern cannot be enclosed. -/
theorem compile_wholeWords_ne_ok {p : Text} (h : OpensWithFlags (Token.ofText p).1)
    (ignoreCase : Bool) (r : Regex) : compile (caseFlags ignoreCase) (wholeWords p) ≠ .ok r := by
  intro hr
  have hread := (compile_eq_ok_iff.mp hr).1
  rw [read_wholeWords_eq] at hread
  obtain ⟨t, ht, -⟩ := read_eq_ok_iff.mp hread
  have hlt : (enclosedStart ignoreCase p).left < (enclosedStart ignoreCase p).left + 3 := by omega
  exact Reading.readElements_of_opensWithFlags h rfl (List.cons_ne_nil _ _) rfl hlt ht

end Regex

end TextShell
