import TextShell.Pattern.Trail

/-!
# Marks of groups

A match marks where its groups begin and end, and a search that goes back does not always put the
marks back as they were.  Inside of a repetition it does.  Outside of all repetitions it only takes
back how many of them count, so that a mark that counted before may have been set again since.  It
suffices that this happens to the end of an open group alone, which is set once more when the group
ends: what is kept of marks is said up to the ends of open groups (`Marks.Kept`).

## Main Definitions

* `Marks.Kept`, `Marks.Alike` — the marks of some groups, or of all, are the same
* `Marks.Ordered` — no group ends before it begins
* `Spot.Reaches` — where a part of a pattern may lead
-/

namespace TextShell

/-! ## Marks -/

namespace Marks

variable {m m' m'' : Marks} {late : List Nat} {n n' : Nat}

/-- The place of a mark, if it counts. -/
def at? (m : Marks) (i : Nat) : Option Nat :=
  if i < m.count then m.places.lookup i else none

theorem lookup_cons_eq (places : List (Nat × Nat)) (i pos j : Nat) :
    ((i, pos) :: places).lookup j = if j = i then some pos else places.lookup j := by
  rw [List.lookup_cons]
  by_cases h : j = i
  · rw [if_pos h, beq_iff_eq.mpr h]
  · rw [if_neg h, beq_false_of_ne h]

/-- Leaving out the marks beyond a number. -/
theorem lookup_filter_lt (places : List (Nat × Nat)) (n j : Nat) :
    (places.filter fun x => decide (x.1 < n)).lookup j =
      if j < n then places.lookup j else none := by
  induction places with
  | nil => exact (ite_self _).symm
  | cons x places ih =>
      obtain ⟨i, pos⟩ := x
      rw [List.filter_cons, lookup_cons_eq]
      by_cases hi : i < n
      · rw [if_pos (decide_eq_true hi), lookup_cons_eq, ih]
        grind
      · rw [if_neg (fun h => hi (of_decide_eq_true h)), ih]
        grind

theorem count_put (m : Marks) (i pos : Nat) : (m.put i pos).count = max m.count (i + 1) := by
  unfold put
  split
  · rename_i hi
    exact (Nat.max_eq_left hi).symm
  · rename_i hi
    exact (Nat.max_eq_right (Nat.le_succ_of_le (Nat.not_lt.mp hi))).symm

/-- The place of a mark that is set, and of the others. -/
theorem at?_put (m : Marks) (i pos j : Nat) :
    (m.put i pos).at? j = if j = i then some pos else m.at? j := by
  have hlookup : (m.put i pos).places.lookup j =
      if j = i then some pos else if i < m.count then m.places.lookup j else m.at? j := by
    unfold put at?
    split
    · rw [lookup_cons_eq]
    · rw [lookup_cons_eq, lookup_filter_lt]
  unfold at? at hlookup ⊢
  rw [count_put, hlookup]
  grind

/-- The marks of the groups up to number `n` are the same, but for the ends of those in `late`, which
are open.  The group of number `i + 1` is the one at index `i`. -/
structure Kept (late : List Nat) (n : Nat) (m m' : Marks) : Prop where
  grows : m.count ≤ m'.count
  begins : ∀ i < n, m'.at? (2 * i) = m.at? (2 * i)
  ends : ∀ i < n, i ∉ late → m'.at? (2 * i + 1) = m.at? (2 * i + 1)

/-- All marks are the same, but for the ends of the groups in `late`. -/
structure Alike (late : List Nat) (m m' : Marks) : Prop where
  count : m'.count = m.count
  kept : ∀ n, Kept late n m m'

/-- **No group ends before it begins,** unless it is one of those in `late`. -/
def Ordered (late : List Nat) (m : Marks) : Prop :=
  ∀ i, i ∉ late → ∀ a b, m.at? (2 * i) = some a → m.at? (2 * i + 1) = some b → a ≤ b

namespace Kept

theorem refl (late : List Nat) (n : Nat) (m : Marks) : Kept late n m m :=
  ⟨Nat.le_refl _, fun _ _ => rfl, fun _ _ _ => rfl⟩

theorem trans (h : Kept late n m m') (h' : Kept late n m' m'') : Kept late n m m'' where
  grows := Nat.le_trans h.grows h'.grows
  begins i hi := (h'.begins i hi).trans (h.begins i hi)
  ends i hi hlate := (h'.ends i hi hlate).trans (h.ends i hi hlate)

theorem mono (h : Kept late n m m') (hn : n' ≤ n) : Kept late n' m m' where
  grows := h.grows
  begins i hi := h.begins i (Nat.lt_of_lt_of_le hi hn)
  ends i hi := h.ends i (Nat.lt_of_lt_of_le hi hn)

/-- Fewer marks count. -/
theorem at?_recount {j : Nat} (hcount : m.count ≤ m'.count)
    (h : j < m.count → m'.at? j = m.at? j) : at? { m' with count := m.count } j = m.at? j := by
  by_cases hj : j < m.count
  · rw [← h hj, at?, at?, if_pos hj, if_pos (Nat.lt_of_lt_of_le hj hcount)]
  · rw [at?, at?, if_neg hj, if_neg hj]

/-- **Going back.** Outside of all repetitions the marks that count must be among those kept. -/
theorem putBack {looping : Bool} (h : Kept late n m m')
    (hn : looping = false → m.count ≤ 2 * n) : Alike late m (m.putBack looping m') := by
  cases looping with
  | true => exact ⟨rfl, fun _ => refl late _ m⟩
  | false =>
      have hcount := hn rfl
      refine ⟨rfl, fun _ => ⟨Nat.le_refl _, fun i _ => ?_, fun i _ hlate => ?_⟩⟩
      · exact at?_recount h.grows fun hi => h.begins i (by omega)
      · exact at?_recount h.grows fun hi => h.ends i (by omega) hlate

end Kept

namespace Alike

theorem refl (late : List Nat) (m : Marks) : Alike late m m :=
  ⟨rfl, fun _ => .refl late _ m⟩

theorem ordered (h : Alike late m m') (hm : m.Ordered late) : m'.Ordered late := by
  intro i hlate a b ha hb
  have hkept := h.kept (i + 1)
  rw [hkept.begins i (Nat.lt_succ_self i)] at ha
  rw [hkept.ends i (Nat.lt_succ_self i) hlate] at hb
  exact hm i hlate a b ha hb

end Alike

/-- Marks that are in order are not crossed once all groups have ended. -/
theorem Ordered.isCrossed (h : m.Ordered []) : m.isCrossed = false := by
  unfold Marks.isCrossed
  rw [List.any_eq_false]
  intro j _ hj
  rw [Bool.and_eq_true, Bool.and_eq_true, beq_iff_eq, decide_eq_true_iff] at hj
  obtain ⟨⟨heven, hcount⟩, hj⟩ := hj
  obtain ⟨i, rfl⟩ : ∃ i, j = 2 * i := ⟨j / 2, by omega⟩
  split at hj
  · rename_i a b ha hb
    have hle : a ≤ b := h i List.not_mem_nil a b (by rw [at?, if_pos (by omega), ha])
      (by rw [at?, if_pos hcount, hb])
    exact absurd (of_decide_eq_true hj) (Nat.not_lt.mpr hle)
  · cases hj

/-! ### A group that begins or ends -/

variable {i pos : Nat}

theorem kept_put_begin (m : Marks) (late : List Nat) (pos : Nat) (hi : n ≤ i) :
    Kept late n m (m.put (2 * i) pos) where
  grows := by
    rw [count_put]
    exact Nat.le_max_left _ _
  begins j hj := by rw [at?_put, if_neg (by omega)]
  ends j hj _ := by rw [at?_put, if_neg (by omega)]

theorem kept_put_end (m : Marks) (late : List Nat) (n i pos : Nat) :
    Kept (i :: late) n m (m.put (2 * i + 1) pos) where
  grows := by
    rw [count_put]
    exact Nat.le_max_left _ _
  begins j hj := by rw [at?_put, if_neg (by omega)]
  ends j hj hlate := by
    have hne : j ≠ i := List.ne_of_not_mem_cons hlate
    rw [at?_put, if_neg (by omega)]

/-- One more group is open. -/
theorem Kept.open (h : Kept late n m m') (i : Nat) : Kept (i :: late) n m m' where
  grows := h.grows
  begins := h.begins
  ends j hj hlate := h.ends j hj (List.not_mem_of_not_mem_cons hlate)

/-- A group that comes later may be open or not. -/
theorem Kept.close (h : Kept (i :: late) n m m') (hi : n ≤ i) : Kept late n m m' where
  grows := h.grows
  begins := h.begins
  ends j hj hlate := h.ends j hj (List.not_mem_cons_of_ne_of_not_mem (by omega) hlate)

theorem Ordered.begin (h : m.Ordered late) (i pos : Nat) :
    (m.put (2 * i) pos).Ordered (i :: late) := by
  intro j hlate a b ha hb
  have hne : j ≠ i := List.ne_of_not_mem_cons hlate
  rw [at?_put, if_neg (by omega)] at ha hb
  exact h j (List.not_mem_of_not_mem_cons hlate) a b ha hb

/-- A group that ends where it begins or later. -/
theorem Ordered.end {start : Nat} (h : m.Ordered (i :: late)) (hbegin : m.at? (2 * i) = some start)
    (hle : start ≤ pos) : (m.put (2 * i + 1) pos).Ordered late := by
  intro j hlate a b ha hb
  rw [at?_put, if_neg (by omega)] at ha
  by_cases hj : j = i
  · subst hj
    rw [at?_put, if_pos rfl] at hb
    cases hb
    obtain rfl : start = a := Option.some.inj (hbegin.symm.trans ha)
    exact hle
  · rw [at?_put, if_neg (by omega)] at hb
    exact h j (List.not_mem_cons_of_ne_of_not_mem hj hlate) a b ha hb

end Marks

/-! ## Places -/

namespace Spot

/-- Where a part of a pattern may lead whose groups have numbers above `lo`, up to `hi`: not back,
and to marks that keep those of the groups before and go no further than those of its own. -/
structure Reaches (late : List Nat) (lo hi : Nat) (s s' : Spot) : Prop where
  forward : s.pos ≤ s'.pos
  kept : Marks.Kept late lo s.trail.marks s'.trail.marks
  few : s'.trail.marks.count ≤ max s.trail.marks.count (2 * hi)
  ordered : s.trail.marks.Ordered late → s'.trail.marks.Ordered late

namespace Reaches

variable {late : List Nat} {lo hi lo' hi' : Nat} {s s' s'' : Spot}

/-- Going on without a mark. -/
theorem of_alike (hpos : s.pos ≤ s'.pos) (h : Marks.Alike late s.trail.marks s'.trail.marks) :
    s.Reaches late lo hi s' where
  forward := hpos
  kept := h.kept lo
  few := by
    rw [h.count]
    exact Nat.le_max_left _ _
  ordered := h.ordered

theorem of_marks_eq (hpos : s.pos ≤ s'.pos) (h : s'.trail.marks = s.trail.marks) :
    s.Reaches late lo hi s' :=
  of_alike hpos (h ▸ .refl late _)

theorem refl (late : List Nat) (lo hi : Nat) (s : Spot) : s.Reaches late lo hi s :=
  of_marks_eq (Nat.le_refl _) rfl

theorem trans (h : s.Reaches late lo hi s') (h' : s'.Reaches late lo hi s'') :
    s.Reaches late lo hi s'' where
  forward := Nat.le_trans h.forward h'.forward
  kept := h.kept.trans h'.kept
  few := by
    have := h.few
    have := h'.few
    omega
  ordered hs := h'.ordered (h.ordered hs)

theorem widen (h : s.Reaches late lo hi s') (hlo : lo' ≤ lo) (hhi : hi ≤ hi') :
    s.Reaches late lo' hi' s' where
  forward := h.forward
  kept := h.kept.mono hlo
  few := by
    have := h.few
    omega
  ordered := h.ordered

/-- From the beginning of a group to its end, if its inside was matched in between. -/
theorem group {i : Nat} (hlo : lo ≤ i) (hhi : i + 1 ≤ hi)
    (h : (s.beginGroup (i + 1)).Reaches (i :: late) (i + 1) hi s') :
    s.Reaches late lo hi (s'.endGroup (i + 1)) := by
  have hbegin : (s.beginGroup (i + 1)).trail.marks = s.trail.marks.put (2 * i) s.pos := rfl
  have hend : (s'.endGroup (i + 1)).trail.marks = s'.trail.marks.put (2 * i + 1) s'.pos := rfl
  have hstart : s'.trail.marks.at? (2 * i) = some s.pos := by
    rw [h.kept.begins i (Nat.lt_succ_self i), hbegin, Marks.at?_put, if_pos rfl]
  refine ⟨h.forward, ?_, ?_, fun hs => (h.ordered (hs.begin i s.pos)).end hstart h.forward⟩
  · have hinside := (h.kept.mono (Nat.le_succ_of_le hlo)).trans
      (Marks.kept_put_end s'.trail.marks late lo i s'.pos)
    exact (Marks.kept_put_begin s.trail.marks late s.pos hlo).trans (hinside.close hlo)
  · have hfew := h.few
    rw [hbegin, Marks.count_put] at hfew
    rw [hend, Marks.count_put]
    omega

/-- After a failure the search goes on from marks that are the same. -/
theorem retry {looping : Bool} {t : Trail} {n : Nat} (h : Marks.Kept late n s.trail.marks t.marks)
    (hn : looping = false → s.trail.marks.count ≤ 2 * n) :
    s.Reaches late lo hi (s.retry looping t) :=
  of_alike (Nat.le_refl _) (h.putBack hn)

end Reaches

theorem reaches_settled (s : Spot) (late : List Nat) (lo hi : Nat) :
    s.Reaches late lo hi s.settled :=
  .of_marks_eq (Nat.le_refl _) rfl

end Spot

end TextShell
