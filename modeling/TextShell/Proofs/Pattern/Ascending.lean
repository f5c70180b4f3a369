import Mathlib.Data.List.Basic
import TextShell.Proofs.Pattern.Boundaries

/-!
# The groups of a pattern

The groups of a pattern are numbered, and the numbers can be read off the pattern from left to
right.  What the reader does to the parts of a pattern when it puts them together changes nothing of
this list: alternatives that begin alike share their beginning, and single characters become a set,
but neither holds a group.

## Main Definitions

* `Ascends` — numbers that ascend between two bounds
* `Pattern.groups`, `Level.groups` — the numbers of groups, from left to right
-/

namespace TextShell

/-! ## Numbers that ascend -/

/-- Numbers that ascend, above a lower bound and up to an upper one. -/
def Ascends : Nat → List Nat → Nat → Prop
  | n, [], m => n ≤ m
  | n, g :: gs, m => n < g ∧ Ascends g gs m

namespace Ascends

variable {n m n' : Nat} {xs ys : List Nat}

theorem le (h : Ascends n xs m) : n ≤ m := by
  induction xs generalizing n with
  | nil => exact h
  | cons x xs ih => exact Nat.le_trans (Nat.le_of_lt h.1) (ih h.2)

theorem of_le (h : Ascends n xs m) (hn : n' ≤ n) : Ascends n' xs m := by
  cases xs with
  | nil => exact Nat.le_trans hn h
  | cons x xs => exact ⟨Nat.lt_of_le_of_lt hn h.1, h.2⟩

/-- Numbers that ascend may be cut anywhere. -/
theorem append_iff : Ascends n (xs ++ ys) m ↔ ∃ k, Ascends n xs k ∧ Ascends k ys m := by
  induction xs generalizing n with
  | nil =>
      constructor
      · intro h
        exact ⟨n, Nat.le_refl n, h⟩
      · rintro ⟨k, hk, h⟩
        exact h.of_le hk
  | cons x xs ih =>
      constructor
      · rintro ⟨hx, h⟩
        obtain ⟨k, hxs, hys⟩ := ih.mp h
        exact ⟨k, ⟨hx, hxs⟩, hys⟩
      · rintro ⟨k, ⟨hx, hxs⟩, hys⟩
        exact ⟨hx, ih.mpr ⟨k, hxs, hys⟩⟩

/-- Leaving out some of the numbers. -/
theorem sublist (h : Ascends n ys m) (hsub : xs.Sublist ys) : Ascends n xs m := by
  induction hsub generalizing n with
  | slnil => exact h
  | cons y _ ih => exact ih (h.2.of_le (Nat.le_of_lt h.1))
  | cons_cons y _ ih => exact ⟨h.1, ih h.2⟩

/-- The number after the upper bound. -/
theorem concat_succ (h : Ascends n xs m) : Ascends n (xs ++ [m + 1]) (m + 1) :=
  append_iff.mpr ⟨m, h, Nat.lt_succ_self m, Nat.le_refl _⟩

end Ascends

/-! ## The groups of a pattern -/

namespace Pattern

/-- The numbers of the groups in a pattern, from left to right. A group stands before those inside
of it. -/
def groups : Pattern → List Nat
  | .seq p q | .alt p q | .cond _ p q => p.groups ++ q.groups
  | .group g p => g :: p.groups
  | .withFlags _ _ p | .atomic p | .look _ _ p | .iterate _ _ _ p => p.groups
  | _ => []

theorem groups_ofList (ps : List Pattern) : (ofList ps).groups = ps.flatMap groups := by
  rw [fold_ofList groups (· ++ ·) (e := []) rfl (fun _ _ => rfl) List.append_nil,
    List.foldr_append_eq_append, List.append_nil, List.flatMap_def]

theorem flatMap_groups_toList (p : Pattern) : p.toList.flatMap groups = p.groups := by
  have hfold := fold_toList groups (· ++ ·) rfl (fun _ _ => rfl) List.nil_append List.append_assoc
    p []
  rwa [List.foldr_append_eq_append, List.append_nil, List.append_nil, ← List.flatMap_def] at hfold

theorem groups_oneOfList (ps : List Pattern) : (oneOfList ps).groups = ps.flatMap groups := by
  induction ps with
  | nil => rfl
  | cons p ps ih =>
      cases ps with
      | nil =>
          rw [List.flatMap_cons, List.flatMap_nil, List.append_nil]
          cases p <;> rfl
      | cons q qs =>
          have hcons : oneOfList (p :: q :: qs) = .alt p (oneOfList (q :: qs)) := by
            cases p <;> rfl
          rw [hcons, groups, ih, ← List.flatMap_cons]

theorem groups_of_isUnit {p : Pattern} (h : p.isUnit = true) : p.groups = [] := by
  cases p <;> first | rfl | cases h

end Pattern

/-- The groups of alternatives. -/
def groupsOfAll (alternatives : List (List Pattern)) : List Nat :=
  alternatives.flatMap fun ps => ps.flatMap Pattern.groups

/-- What all alternatives begin with holds no groups. -/
theorem groups_commonStart (ps : List Pattern) (others : List (List Pattern)) :
    (commonStart ps others).1.flatMap Pattern.groups = [] ∧
      groupsOfAll (commonStart ps others).2 = groupsOfAll (ps :: others) := by
  induction ps generalizing others with
  | nil => exact ⟨rfl, rfl⟩
  | cons p ps ih =>
      rw [commonStart]
      split
      · rename_i hshared
        obtain ⟨hunit, hall⟩ := Bool.and_eq_true_iff.mp hshared
        have hp : p.groups = [] := Pattern.groups_of_isUnit hunit
        obtain ⟨hstart, hrest⟩ := ih (others.map List.tail)
        have htails : groupsOfAll (others.map List.tail) = groupsOfAll others := by
          rw [groupsOfAll, groupsOfAll, List.flatMap_map]
          refine List.flatMap_congr fun o ho => ?_
          obtain ⟨rest, rfl⟩ := List.head?_eq_some_iff.mp
            (beq_iff_eq.mp (List.all_eq_true.mp hall o ho))
          rw [List.tail_cons, List.flatMap_cons, hp, List.nil_append]
        refine ⟨by rw [List.flatMap_cons, hp, hstart, List.nil_append], ?_⟩
        rw [hrest, groupsOfAll, groupsOfAll, List.flatMap_cons, List.flatMap_cons,
          List.flatMap_cons, hp, List.nil_append]
        exact congrArg _ htails
      · exact ⟨rfl, rfl⟩

theorem groups_of_setItems? {ps : List Pattern} {items : List ClassItem}
    (h : setItems? ps = some items) : ps.flatMap Pattern.groups = [] := by
  unfold setItems? at h
  split at h
  · rfl
  · rfl
  · cases h

theorem groups_of_mapM_setItems? {alternatives : List (List Pattern)}
    {sets : List (List ClassItem)} (h : alternatives.mapM setItems? = some sets) :
    groupsOfAll alternatives = [] := by
  induction alternatives generalizing sets with
  | nil => rfl
  | cons ps alternatives ih =>
      rw [List.mapM_cons] at h
      obtain ⟨items, hitems, h⟩ := Option.bind_eq_some_iff.mp h
      obtain ⟨rest, hrest, -⟩ := Option.bind_eq_some_iff.mp h
      rw [groupsOfAll, List.flatMap_cons, groups_of_setItems? hitems, List.nil_append]
      exact ih hrest

/-- Characters that become a set hold no groups. -/
theorem groups_choice (alternatives : List (List Pattern)) :
    (choice alternatives).groups = groupsOfAll alternatives := by
  unfold choice
  split
  · rename_i sets hsets
    rw [groups_of_mapM_setItems? hsets]
    rfl
  · rw [Pattern.groups_oneOfList, List.flatMap_map]
    exact List.flatMap_congr fun ps _ => Pattern.groups_ofList ps

/-- Alternatives that are put together keep their groups in order. -/
theorem groups_mergeAlternatives (alternatives : List (List Pattern)) :
    (mergeAlternatives alternatives).flatMap Pattern.groups = groupsOfAll alternatives := by
  match alternatives with
  | [] => rfl
  | [ps] => rw [mergeAlternatives, groupsOfAll, List.flatMap_singleton]
  | ps :: qs :: others =>
      obtain ⟨hshared, hrest⟩ := groups_commonStart ps (qs :: others)
      show ((commonStart ps (qs :: others)).1 ++ [choice (commonStart ps (qs :: others)).2]).flatMap
        Pattern.groups = _
      rw [List.flatMap_append, hshared, List.nil_append, List.flatMap_singleton, groups_choice,
        hrest]

namespace Level

/-- The groups in what was read inside of a bracket. -/
def groups (l : Level) : List Nat :=
  groupsOfAll (l.sequence :: l.finished).reverse

theorem groups_pattern (l : Level) : l.pattern.groups = l.groups := by
  rw [pattern, Pattern.groups_ofList, groups_mergeAlternatives, groups]

theorem groups_eq (l : Level) :
    l.groups = groupsOfAll l.finished.reverse ++ l.sequence.flatMap Pattern.groups := by
  rw [groups, List.reverse_cons, groupsOfAll, List.flatMap_append, List.flatMap_singleton]
  rfl

theorem flatMap_groups_sequence (l : Level) :
    l.sequence.flatMap Pattern.groups =
      l.parts.reverse.flatMap fun part => part.pattern.groups := by
  rw [sequence, List.flatMap_assoc]
  exact List.flatMap_congr fun part _ => Pattern.flatMap_groups_toList part.pattern

/-- Another part comes last. -/
theorem groups_cons_part (l : Level) (part : Part) :
    groups { l with parts := part :: l.parts } = l.groups ++ part.pattern.groups := by
  rw [groups_eq, groups_eq, flatMap_groups_sequence, flatMap_groups_sequence, List.reverse_cons,
    List.flatMap_append, List.flatMap_singleton, List.append_assoc]

/-- The parts of an alternative may be replaced by others with the same groups. -/
theorem groups_replace_part (l : Level) {part part' : Part} {parts : List Part}
    (hparts : l.parts = part :: parts) (h : part'.pattern.groups = part.pattern.groups) :
    groups { l with parts := part' :: parts } = l.groups := by
  rw [groups_eq, groups_eq, flatMap_groups_sequence, flatMap_groups_sequence, hparts,
    List.reverse_cons, List.reverse_cons, List.flatMap_append, List.flatMap_append,
    List.flatMap_singleton, List.flatMap_singleton, h]

/-- Ending an alternative. -/
theorem groups_finish (l : Level) :
    groups { l with finished := l.sequence :: l.finished, parts := [] } = l.groups := by
  rw [groups_eq]
  show groupsOfAll (l.sequence :: l.finished).reverse ++ [] = l.groups
  exact List.append_nil _

theorem groups_empty (verbose : Bool) : groups { verbose := verbose } = [] := rfl

end Level

end TextShell
