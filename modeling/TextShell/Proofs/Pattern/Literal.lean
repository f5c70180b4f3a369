import TextShell.Proofs.Pattern.Enclosing
import TextShell.Proofs.Pattern.Finding

/-!
# Patterns that stand for themselves

A text without the characters that mean something in a pattern is read as the sequence of its
characters (`Regex.compile_literal`).  As a pattern it matches from a place exactly if it stands
there (`Pattern.run_literal`), so it is found in a line that holds it (`Regex.found_literal`).

## Main Definitions

* `specialChars`, `isOrdinary` — characters that stand for something else and for themselves
* `Pattern.literal`, `Regex.literal` — a text as a pattern
-/

namespace TextShell

/-- The characters that are read as something else than themselves. -/
def specialChars : Text :=
  ['\\', '.', '^', '$', '*', '+', '?', '\x7b', '[', '|', '(', ')']

/-- A character that stands for itself in a pattern. -/
def isOrdinary (c : Char) : Bool :=
  !specialChars.contains c

/-- The characters of a text one after the other. -/
def Pattern.literal (p : Text) : Pattern :=
  .ofList (p.map fun c => .char (.code c.toNat))

/-- A text as a pattern in which letter case counts. -/
def Regex.literal (p : Text) : Regex :=
  ⟨{ unicode := true }, .literal p, p.length⟩

/-! ## Reading -/

theorem Token.ofText_of_isOrdinary {p : Text} (hp : ∀ c ∈ p, isOrdinary c = true) :
    Token.ofText p = (p.map .plain, false) := by
  induction p with
  | nil => rfl
  | cons c cs ih =>
      obtain ⟨hc, hcs⟩ := List.forall_mem_cons.mp hp
      have hbackslash : c ≠ '\\' := by
        rintro rfl
        exact absurd hc (by decide)
      rw [Token.ofText_cons_of_ne hbackslash, ih hcs, List.map_cons]

namespace Reading

variable {s : ReadState} {c : Char}

theorem readFrom_of_isOrdinary (hc : isOrdinary c = true) (start : Nat) :
    readFrom start (.plain c) = add (.char (.code c.toNat)) := by
  have hspecial : ∀ {d}, isOrdinary d = false → c ≠ d := by
    rintro d hd rfl
    rw [hc] at hd
    cases hd
  rw [readFrom]
  all_goals exact hspecial rfl

theorem readElement_of_isOrdinary (hc : isOrdinary c = true) {ts : List Token}
    (hrest : s.source.rest = .plain c :: ts) (hdangling : s.source.dangling = false)
    (hverbose : s.level.verbose = false) :
    readElement (.plain c) s = .ok ((), { s with
      source := { s.source with rest := ts, pos := s.source.pos + 1 }
      level := { s.level with
        parts := { pattern := .char (.code c.toNat) } :: s.level.parts } }) := by
  have hbar : Token.plain c ≠ .plain '|' := by
    intro h
    cases h
    exact absurd hc (by decide)
  have hclose : Token.plain c = .plain ')' → s.brackets = [] := by
    intro h
    cases h
    exact absurd hc (by decide)
  have hnext : nextToken s = .ok (some (.plain c),
      { s with source := { s.source with rest := ts, pos := s.source.pos + 1 } }) := by
    rw [nextToken_of_cons hrest, bind_of_eq_ok (moveTo_eq_ok fun _ => hdangling)]
    rfl
  rw [readElement_other hbar hclose, bind_of_eq_ok hnext, hverbose]
  show readFrom s.source.pos (.plain c) _ = _
  rw [readFrom_of_isOrdinary hc]
  rfl

/-- **Ordinary characters are read as themselves**, one after the other. -/
theorem readElements_of_isOrdinary {p : Text} (hp : ∀ c ∈ p, isOrdinary c = true)
    (hrest : s.source.rest = p.map .plain) (hdangling : s.source.dangling = false)
    (hverbose : s.level.verbose = false) {n : Nat} (hn : p.length ≤ n) :
    ∃ source, source.rest = [] ∧ readElements n s = .ok ((), { s with
      source := source
      level := { s.level with
        parts :=
          (p.map fun c => { pattern := .char (.code c.toNat) }).reverse ++ s.level.parts } }) := by
  induction p generalizing s n with
  | nil => exact ⟨s.source, hrest, readElements_of_nil hrest n⟩
  | cons c cs ih =>
      obtain ⟨hc, hcs⟩ := List.forall_mem_cons.mp hp
      obtain ⟨n, rfl⟩ := Nat.exists_eq_add_one_of_ne_zero (Nat.ne_of_gt (Nat.zero_lt_of_lt hn))
      have hbalanced : Token.plain c = .plain ')' → s.brackets ≠ [] := by
        intro h
        cases h
        exact absurd hc (by decide)
      obtain ⟨source, hsource, hread⟩ := ih (s := { s with
        source := { s.source with rest := cs.map .plain, pos := s.source.pos + 1 }
        level := { s.level with
          parts := { pattern := .char (.code c.toNat) } :: s.level.parts } })
        hcs rfl hdangling hverbose (Nat.le_of_succ_le_succ hn)
      refine ⟨source, hsource, ?_⟩
      rw [readElements_succ hrest hbalanced,
        bind_of_eq_ok (readElement_of_isOrdinary hc hrest hdangling hverbose), hread]
      simp

end Reading

/-- An alternative of single characters. -/
theorem Level.pattern_of_chars {l : Level} (p : Text) (hfinished : l.finished = [])
    (hparts : l.parts = (p.map fun c => { pattern := .char (.code c.toNat) }).reverse) :
    l.pattern = .literal p := by
  have hsequence : l.sequence = p.map fun c => .char (.code c.toNat) := by
    rw [Level.sequence, hparts, List.reverse_reverse, List.flatMap_map]
    exact List.map_eq_flatMap.symm
  rw [Level.pattern, hfinished, hsequence]
  rfl

namespace Pattern

/-- The parts of a literal are characters, each of which does the same. -/
theorem fold_literal {β : Type} (f : Pattern → β) (op : β → β → β) {e b : β} (hempty : f .empty = e)
    (hseq : ∀ p q, f (.seq p q) = op (f p) (f q)) (hright : ∀ b, op b e = b)
    (hchar : ∀ t, f (.char t) = b) (p : Text) :
    f (.literal p) = p.foldr (fun _ => op b) e := by
  rw [literal, fold_ofList f op hempty hseq hright, List.foldr_map]
  simp only [hchar]

theorem least_literal (p : Text) (groups : Nat → Width) :
    ((literal p).width groups).least = p.length := by
  rw [fold_literal (fun p => (p.width groups).least) (· + ·) (b := 1) rfl (fun _ _ => rfl)
    Nat.add_zero (fun _ => rfl)]
  induction p with
  | nil => rfl
  | cons c cs ih => rw [List.foldr_cons, ih, List.length_cons, Nat.add_comm]

theorem fold_literal_of_eq {β : Type} (f : Pattern → β) (op : β → β → β) {e : β}
    (hempty : f .empty = e) (hseq : ∀ p q, f (.seq p q) = op (f p) (f q)) (hleft : ∀ b, op e b = b)
    (hright : ∀ b, op b e = b) (hchar : ∀ t, f (.char t) = e) (p : Text) : f (.literal p) = e := by
  rw [fold_literal f op hempty hseq hright hchar]
  induction p with
  | nil => rfl
  | cons c cs ih => rw [List.foldr_cons, ih, hleft]

theorem complaint?_literal (template : Bool) (p : Text) :
    Regex.complaint? template (literal p) = none :=
  fold_literal_of_eq (Regex.complaint? template) Option.or rfl (fun _ _ => rfl) (fun _ => rfl)
    (fun b => by cases b <;> rfl) (fun _ => rfl) p

theorem looksTooFar_literal (p : Text) : Regex.looksTooFar (literal p) = false :=
  fold_literal_of_eq Regex.looksTooFar (· || ·) rfl (fun _ _ => rfl) Bool.false_or Bool.or_false
    (fun _ => rfl) p

theorem hasPossessive_literal (p : Text) : (literal p).hasPossessive = false :=
  fold_literal_of_eq hasPossessive (· || ·) rfl (fun _ _ => rfl) Bool.false_or Bool.or_false
    (fun _ => rfl) p

end Pattern

namespace Regex

variable {p : Text}

theorem read_literal (hp : ∀ c ∈ p, isOrdinary c = true) : read {} p = .ok (literal p) := by
  have htokens := Token.ofText_of_isOrdinary hp
  have hdangling : (Token.ofText p).1 = [] → (Token.ofText p).2 = false := by
    rw [htokens]
    exact fun _ => rfl
  have hrest : (start {} p).source.rest = p.map .plain := by rw [start, htokens]
  have hlone : (start {} p).source.dangling = false := by rw [start, htokens]
  have hn : p.length ≤ (Token.ofText p).1.length + 1 := by
    rw [htokens, List.length_map]
    exact Nat.le_succ _
  obtain ⟨source, hnil, hread⟩ := Reading.readElements_of_isOrdinary hp hrest hlone rfl hn
  rw [read_eq {} hdangling]
  have halphabet : ¬((start {} p).flags.ascii = true ∧ (start {} p).flags.unicode = true) :=
    fun h => Bool.false_ne_true h.1
  have hpromised : ∀ g ∈ (start {} p).promises.map Prod.fst, g < (start {} p).groups.next :=
    fun _ hg => absurd hg List.not_mem_nil
  refine read_eq_ok_iff.mpr
    ⟨_, hread, finish_eq_ok_iff.mpr ⟨rfl, halphabet, hnil, hpromised, ?_, rfl⟩⟩
  rw [ofState, Level.pattern_of_chars p rfl (List.append_nil _), Pattern.least_literal]
  rfl

/-- **A text of ordinary characters is a pattern that stands for itself.** -/
theorem compile_literal (hp : ∀ c ∈ p, isOrdinary c = true) : compile {} p = .ok (literal p) :=
  compile_eq_ok_iff.mpr
    ⟨read_literal hp, Pattern.complaint?_literal _ p, Pattern.looksTooFar_literal p⟩

/-- It stands for itself between boundaries as well. -/
theorem compile_wholeWords_literal (hp : ∀ c ∈ p, isOrdinary c = true) :
    compile {} (wholeWords p) = .ok (literal p).betweenBoundaries := by
  have hcompiled : compile (caseFlags false) p = .ok (literal p) := compile_literal hp
  cases compile_compared false p with
  | both r halone henclosed =>
      rw [hcompiled] at halone
      cases halone
      exact henclosed
  | unbalanced place halone =>
      rw [hcompiled] at halone
      cases halone
  | fails henclosed halone =>
      have hflags := halone _ hcompiled
      rw [Token.ofText_of_isOrdinary hp] at hflags
      obtain ⟨rest, hrest⟩ := hflags.exists_eq_cons
      obtain ⟨c, cs, rfl, hc, -⟩ := List.map_eq_cons_iff.mp hrest
      cases hc
      exact absurd (hp _ List.mem_cons_self) (by decide)

end Regex

/-! ## Matching -/

namespace Pattern

variable {text : Array Char}

theorem accepts_code {flags : Flags} (hflags : flags.ignoreCase = false) (c d : Char) :
    (CharTest.code c.toNat).accepts flags d.toNat = (c == d) := by
  rw [CharTest.accepts, CharTest.isCode, hflags]
  show (c.toNat == d.toNat) = (c == d)
  rw [Bool.eq_iff_iff, beq_iff_eq, beq_iff_eq, Char.toNat_inj]

theorem run_ofList_cons (text : Array Char) (c : Surroundings) (p : Pattern) (ps : List Pattern)
    (s : Spot) (k : Continuation) :
    run text c (ofList (p :: ps)) s k =
      run text (c.before (ofList ps)) p s fun s' => run text c (ofList ps) s' k := by
  cases ps with
  | nil => rfl
  | cons q qs => rfl

/-- **A literal matches where its text stands**, and in one way only. -/
theorem run_literal {c : Surroundings} (hcase : c.flags.ignoreCase = false) (p : Text) (s : Spot)
    (k : Continuation) :
    run text c (literal p) s k =
      if p <+: text.toList.drop s.pos then k (s.moveTo (s.pos + p.length))
      else .failed s.trail := by
  induction p generalizing s with
  | nil =>
      rw [if_pos List.nil_prefix]
      rfl
  | cons x xs ih =>
      rw [literal, List.map_cons, run_ofList_cons]
      unfold run
      rw [← Array.getElem?_toList]
      cases hx : text.toList[s.pos]? with
      | none =>
          have hdrop : text.toList.drop s.pos = [] :=
            List.drop_eq_nil_of_le (List.getElem?_eq_none_iff.mp hx)
          rw [hdrop, if_neg (by simp)]
      | some y =>
          have hbegins : x :: xs <+: text.toList.drop s.pos ↔
              x = y ∧ xs <+: text.toList.drop (s.pos + 1) := by
            obtain ⟨hlt, rfl⟩ := List.getElem?_eq_some_iff.mp hx
            rw [List.drop_eq_getElem_cons hlt, List.cons_prefix_cons]
          have hnext := ih (s.moveTo (s.pos + 1))
          have hend : s.pos + 1 + xs.length = s.pos + (x :: xs).length := by
            rw [List.length_cons]
            omega
          rw [literal] at hnext
          dsimp only
          rw [Surroundings.flags_before, accepts_code hcase, hnext]
          by_cases hxy : x = y
          · rw [if_pos (beq_iff_eq.mpr hxy)]
            by_cases hxs : xs <+: text.toList.drop (s.pos + 1)
            · rw [if_pos (hbegins.mpr ⟨hxy, hxs⟩), ← hend]
              exact if_pos hxs
            · rw [if_neg fun h => hxs (hbegins.mp h).2]
              exact if_neg hxs
          · rw [if_neg (mt beq_iff_eq.mp hxy), if_neg fun h => hxy (hbegins.mp h).1]

end Pattern

/-- A text stands in a line if it begins some rest of it. -/
theorem isInfix_iff_exists_drop {p line : Text} :
    p <:+: line ↔ ∃ i ≤ line.length, p <+: line.drop i := by
  rw [List.infix_iff_prefix_suffix]
  constructor
  · rintro ⟨rest, hp, hrest⟩
    exact ⟨line.length - rest.length, Nat.sub_le _ _, List.suffix_iff_eq_drop.mp hrest ▸ hp⟩
  · rintro ⟨i, -, hp⟩
    exact ⟨line.drop i, hp, List.drop_suffix i line⟩

namespace Regex

variable {p line : Text} {i : Nat}

theorem matchesFrom_literal : (literal p).MatchesFrom line i ↔ p <+: line.drop i := by
  unfold MatchesFrom literal
  rw [Pattern.run_literal rfl, Attempt.succeeds_ite, List.toList_toArray]
  exact and_iff_left (Attempt.done_succeeds _)

/-- A literal is looked for by its first character. -/
theorem mayBegin_literal (hp : p ≠ []) (text : Array Char) :
    (literal p).mayBegin text i = true := by
  obtain ⟨c, cs, rfl⟩ := List.exists_cons_of_ne_nil hp
  have hlead : (Pattern.literal (c :: cs)).lead { unicode := true } = .character := by
    cases cs with
    | nil => rfl
    | cons d ds => rfl
  rw [mayBegin, literal, hlead]

/-- **A literal is found in the lines that hold it.** -/
theorem found_literal (hp : p ≠ []) : (literal p).found line = true ↔ p <:+: line := by
  rw [found_iff, isInfix_iff_exists_drop]
  simp only [matchesFrom_literal, mayBegin_literal hp, true_and]
  refine ⟨fun h => h.2, fun h => ⟨?_, h⟩⟩
  exact (isInfix_iff_exists_drop.mpr h).length_le

theorem matchesFrom_betweenBoundaries_literal :
    (literal p).betweenBoundaries.MatchesFrom line i ↔
      p <+: line.drop i ∧ Anchor.boundary.holds { unicode := true } line.toArray i = true ∧
        Anchor.boundary.holds { unicode := true } line.toArray (i + p.length) = true := by
  unfold MatchesFrom betweenBoundaries literal
  rw [Pattern.run_betweenBoundaries, Attempt.succeeds_ite, Pattern.run_literal rfl,
    Attempt.succeeds_ite, Attempt.succeeds_ite, List.toList_toArray]
  rw [and_left_comm]
  exact and_congr_right fun _ => and_congr_right fun _ => and_iff_left (Attempt.done_succeeds _)

/-- Between boundaries it is found where it stands between two of them. -/
theorem found_betweenBoundaries_literal :
    (literal p).betweenBoundaries.found line = true ↔
      ∃ i ≤ line.length, p <+: line.drop i ∧
        Anchor.boundary.holds { unicode := true } line.toArray i = true ∧
        Anchor.boundary.holds { unicode := true } line.toArray (i + p.length) = true := by
  rw [found_iff]
  constructor
  · rintro ⟨-, i, hi, -, hmatch⟩
    exact ⟨i, hi, matchesFrom_betweenBoundaries_literal.mp hmatch⟩
  · rintro ⟨i, hi, hp, hboundaries⟩
    have hlength : p.length ≤ line.length - i := List.length_drop ▸ hp.length_le
    have hleast : (literal p).betweenBoundaries.least ≤ line.length :=
      Nat.le_trans hlength (Nat.sub_le _ _)
    have hbegin : i + (literal p).least ≤ line.toArray.size + 1 := by
      rw [List.size_toArray]
      show i + p.length ≤ line.length + 1
      omega
    refine ⟨hleast, i, hi, ?_, matchesFrom_betweenBoundaries_literal.mpr ⟨hp, hboundaries⟩⟩
    rw [mayBegin_betweenBoundaries]
    exact decide_eq_true hbegin

end Regex

end TextShell
