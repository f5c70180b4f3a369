import TextShell.Pattern.Match

/-!
# A pattern between two boundaries

A sequence is a tree, but what it comes to depends on its parts and their order only, if it is
computed part by part: by an operation with a neutral element for the empty pattern.  So it is for
the width of a pattern, for what is checked once it was read, and for its run.  In a run the
operation is that what follows a part is the run of the parts after it, which also tell the part
which character must come next.

A pattern between two boundaries is a sequence of its parts and the boundaries, not of three parts.
By what was said it matches from a place if the place is a boundary and the pattern matches from
there up to another one (`Pattern.run_betweenBoundaries`).

## Main Definitions

* `Pattern.betweenBoundaries`, `Regex.betweenBoundaries` — a pattern between two boundaries
* `Pattern.hasPossessive` — whether a possessive repetition is part of a pattern
* `Pattern.asPart` — what a pattern is for the sequence that it is a part of
-/

namespace TextShell

namespace Surroundings

theorem flags_before (c : Surroundings) (q : Pattern) : (c.before q).flags = c.flags := by
  unfold before
  split <;> rfl

theorem looping_before (c : Surroundings) (q : Pattern) : (c.before q).looping = c.looping := by
  unfold before
  split <;> rfl

theorem closed_before (c : Surroundings) (q : Pattern) : (c.before q).closed = c.closed := by
  rw [closed, closed, flags_before, looping_before]

end Surroundings

namespace Pattern

/-- A pattern between two boundaries. -/
def betweenBoundaries (p : Pattern) : Pattern :=
  .ofList (.anchor .boundary :: p.toList ++ [.anchor .boundary])

section Fold

variable {β : Type} (f : Pattern → β) (op : β → β → β) {e : β}

/-- What a sequence comes to is what its parts come to, one after the other. -/
theorem fold_ofList (hempty : f .empty = e) (hseq : ∀ p q, f (.seq p q) = op (f p) (f q))
    (hright : ∀ b, op b e = b) (ps : List Pattern) :
    f (ofList ps) = ps.foldr (fun p b => op (f p) b) e := by
  induction ps with
  | nil => exact hempty
  | cons p ps ih =>
      rw [List.foldr_cons, ← ih]
      cases ps with
      | nil => rw [ofList, ofList, hempty, hright]
      | cons q qs => exact hseq p _

theorem fold_toList (hempty : f .empty = e) (hseq : ∀ p q, f (.seq p q) = op (f p) (f q))
    (hleft : ∀ b, op e b = b) (hassoc : ∀ a b c, op (op a b) c = op a (op b c)) (p : Pattern)
    (b : β) :
    p.toList.foldr (fun q b => op (f q) b) b = op (f p) b := by
  induction p generalizing b with
  | empty => rw [toList, List.foldr_nil, hempty, hleft]
  | seq p q ihp ihq => rw [toList, List.foldr_append, ihq, ihp, hseq, hassoc]
  | _ => rfl

/-- The boundaries are parts like the others. -/
theorem fold_betweenBoundaries (hempty : f .empty = e)
    (hseq : ∀ p q, f (.seq p q) = op (f p) (f q)) (hleft : ∀ b, op e b = b)
    (hright : ∀ b, op b e = b) (hassoc : ∀ a b c, op (op a b) c = op a (op b c)) (p : Pattern) :
    f p.betweenBoundaries =
      op (f (.anchor .boundary)) (op (f p) (f (.anchor .boundary))) := by
  rw [betweenBoundaries, fold_ofList f op hempty hseq hright, List.cons_append, List.foldr_cons,
    List.foldr_append, fold_toList f op hempty hseq hleft hassoc, List.foldr_cons, List.foldr_nil,
    hright]

/-- Boundaries add nothing to what leaves them out of account. -/
theorem fold_betweenBoundaries_of_eq (hempty : f .empty = e)
    (hseq : ∀ p q, f (.seq p q) = op (f p) (f q)) (hboundary : f (.anchor .boundary) = e)
    (hleft : ∀ b, op e b = b) (hright : ∀ b, op b e = b)
    (hassoc : ∀ a b c, op (op a b) c = op a (op b c)) (p : Pattern) :
    f p.betweenBoundaries = f p := by
  rw [fold_betweenBoundaries f op hempty hseq hleft hright hassoc, hboundary, hleft, hright]

end Fold

/-! ## What boundaries add nothing to -/

/-- Boundaries take no characters. -/
theorem least_betweenBoundaries (p : Pattern) (groups : Nat → Width) :
    (p.betweenBoundaries.width groups).least = (p.width groups).least :=
  fold_betweenBoundaries_of_eq (fun p => (p.width groups).least) (· + ·) rfl (fun _ _ => rfl) rfl
    Nat.zero_add Nat.add_zero Nat.add_assoc p

theorem complaint?_betweenBoundaries (template : Bool) (p : Pattern) :
    Regex.complaint? template p.betweenBoundaries = Regex.complaint? template p :=
  fold_betweenBoundaries_of_eq (Regex.complaint? template) Option.or rfl (fun _ _ => rfl) rfl
    (fun _ => rfl) (fun b => by cases b <;> rfl) (fun a _ _ => by cases a <;> rfl) p

theorem looksTooFar_betweenBoundaries (p : Pattern) :
    Regex.looksTooFar p.betweenBoundaries = Regex.looksTooFar p :=
  fold_betweenBoundaries_of_eq Regex.looksTooFar (· || ·) rfl (fun _ _ => rfl) rfl Bool.false_or
    Bool.or_false Bool.or_assoc p

/-- Whether a possessive repetition is part of the pattern. -/
def hasPossessive : Pattern → Bool
  | .seq p q | .alt p q | .cond _ p q => hasPossessive p || hasPossessive q
  | .group _ p | .withFlags _ _ p | .atomic p | .look _ _ p => hasPossessive p
  | .iterate greed _ _ p => greed == .possessive || hasPossessive p
  | _ => false

theorem hasPossessive_betweenBoundaries (p : Pattern) :
    p.betweenBoundaries.hasPossessive = p.hasPossessive :=
  fold_betweenBoundaries_of_eq hasPossessive (· || ·) rfl (fun _ _ => rfl) rfl Bool.false_or
    Bool.or_false Bool.or_assoc p

/-! ## The run -/

/-- What a pattern is for the sequence that it is a part of: how it runs, and what stands around the
part before it. -/
def asPart (text : Array Char) (p : Pattern) :
    (Surroundings → Matcher) × (Surroundings → Surroundings) :=
  (fun c => run text c p, fun c => c.before p)

theorem before_seq (c : Surroundings) (p q : Pattern) :
    c.before (.seq p q) = (c.before q).before p := by
  rw [Surroundings.before, opening, Surroundings.before, Surroundings.flags_before,
    Surroundings.looping_before, Surroundings.closed_before]
  cases p.opening false c.flags with
  | nothing => rfl
  | character x => rfl
  | set flags t => rfl
  | other => rfl

/-- A match of a pattern between two boundaries begins at one and ends at one. -/
theorem run_betweenBoundaries (text : Array Char) (c : Surroundings) (p : Pattern) (s : Spot)
    (k : Continuation) :
    run text c p.betweenBoundaries s k =
      if Anchor.boundary.holds c.flags text s.pos then
        run text c.closed p s fun s' =>
          if Anchor.boundary.holds c.flags text s'.pos then k s' else .failed s'.trail
      else .failed s.trail := by
  have hfold := fold_betweenBoundaries (asPart text)
    (fun a b => (fun c s k => a.1 (b.2 c) s fun s' => b.1 c s' k, fun c => a.2 (b.2 c)))
    (e := (fun _ s k => k s, fun c => c)) rfl
    (fun p q => Prod.ext rfl (funext fun c => before_seq c p q)) (fun _ => rfl) (fun _ => rfl)
    (fun _ _ _ => rfl) p
  have hflags : ((c.before (.anchor .boundary)).before p).flags = c.flags :=
    Surroundings.flags_before _ _
  calc
    run text c p.betweenBoundaries s k
      = run text ((c.before (.anchor .boundary)).before p) (.anchor .boundary) s fun s' =>
          run text (c.before (.anchor .boundary)) p s' fun s' =>
            run text c (.anchor .boundary) s' k :=
        congrFun (congrFun (congrFun (congrArg Prod.fst hfold) c) s) k
    _ = _ := by
        rw [run, hflags]
        rfl

theorem lead_betweenBoundaries (flags : Flags) (p : Pattern) :
    p.betweenBoundaries.lead flags = .free := by
  obtain ⟨q, qs, hq⟩ : ∃ q qs, p.toList ++ [.anchor .boundary] = q :: qs :=
    List.exists_cons_of_ne_nil (by simp)
  rw [betweenBoundaries, List.cons_append, hq]
  rfl

end Pattern

/-- The same pattern between two boundaries. -/
def Regex.betweenBoundaries (r : Regex) : Regex :=
  { r with pattern := r.pattern.betweenBoundaries }

end TextShell
