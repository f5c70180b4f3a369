import TextShell.Line.Reference
import TextShell.Proofs.Line.Scanning

/-!
# Lines cut into words as pieces

The pieces of a line can be cut into words before anything is put in the place of the references.
`PieceScan` does what the scanner does, with a reference as one thing that belongs to the word in
progress, whatever quote is open.

Writing the pieces of such a state as texts gives a state of the scanner.  This is a simulation for
every way `f` of writing the references that the scanner admits (`PieceScan.foldl_step_write`).
What the words hold in the end are pieces of the line in their order, with all of its references
(`PieceScan.exists_kept_foldl_step`).

## Main Definitions

* `PieceScan`, `PieceScan.step` — how far the pieces were read, and reading one of them
* `PieceScan.write` — the state of the scanner, given how pieces are written
* `pieceStages` — the words of every stage of a line that has one, as pieces
-/

namespace TextShell

/-- Whether a piece is a reference. -/
def Piece.isReference (p : Piece) : Bool :=
  p.name?.isSome

/-! ## Cutting pieces into words -/

/-- How far the pieces of a line were read. -/
structure PieceScan where
  /-- The stages that are finished, in order. -/
  finished : List (List (List Piece)) := []
  /-- The finished words of the stage in progress, in order. -/
  words : List (List Piece) := []
  /-- The pieces of the word in progress, if there is one, in order. -/
  word : Option (List Piece) := none
  /-- The quote that is open, if there is one. -/
  quote : Option Char := none

namespace PieceScan

/-- Adds a piece to the word in progress, or begins a word with it. -/
def push (s : PieceScan) (p : Piece) : PieceScan :=
  { s with word := some (s.word.getD [] ++ [p]) }

/-- Ends the word in progress, if there is one. -/
def endWord (s : PieceScan) : PieceScan :=
  { s with words := s.words ++ s.word.toList, word := none }

/-- Ends the stage in progress. -/
def endStage (s : PieceScan) : PieceScan :=
  { s with finished := s.finished ++ [s.words ++ s.word.toList], words := [], word := none }

/-- Opens a quoted part, which begins a word if none is in progress. -/
def openQuote (s : PieceScan) (q : Char) : PieceScan :=
  { s with quote := some q, word := some (s.word.getD []) }

/-- Reads one piece.  A reference belongs to the word in progress, whatever quote is open. -/
def step (s : PieceScan) : Piece → PieceScan
  | .reference name braced => s.push (.reference name braced)
  | .literal c =>
    match s.quote with
    | some q => if c = q then { s with quote := none } else s.push (.literal c)
    | none =>
      if isQuote c then s.openQuote c
      else if c = '|' then s.endStage
      else if isBlank c then s.endWord
      else s.push (.literal c)

/-- The stages, in order, once the line has ended. -/
def groups (s : PieceScan) : List (List (List Piece)) :=
  s.endStage.finished

/-- The state of the scanner that has read the pieces as `f` writes them. -/
def write (f : Piece → Text) (s : PieceScan) : Scan where
  finished := (s.finished.map (List.map (List.flatMap f))).reverse
  words := (s.words.map (List.flatMap f)).reverse
  word := s.word.map fun ps => (ps.flatMap f).reverse
  quote := s.quote

section Write

variable (f : Piece → Text) (s : PieceScan)

@[simp] theorem write_quote : (s.write f).quote = s.quote := rfl

theorem write_push (p : Piece) : (s.push p).write f = (s.write f).append (f p) := by
  unfold push write Scan.append
  cases s.word with
  | none => simp
  | some w => simp

theorem write_openQuote (q : Char) : (s.openQuote q).write f = (s.write f).openQuote q := by
  unfold openQuote write Scan.openQuote
  cases s.word with
  | none => rfl
  | some w => rfl

theorem write_endWord : s.endWord.write f = (s.write f).endWord := by
  unfold endWord write Scan.endWord
  cases s.word with
  | none => simp
  | some w => simp

theorem write_endStage : s.endStage.write f = (s.write f).endStage := by
  unfold Scan.endStage
  rw [← write_endWord]
  simp [endStage, endWord, write]

/-- The stages of what is written are the stages, written. -/
theorem groups_write : (s.write f).groups = s.groups.map (List.map (List.flatMap f)) := by
  rw [Scan.groups, ← write_endStage]
  exact List.reverse_reverse _

end Write

/-! ## The simulation -/

section Simulation

variable {f : Piece → Text} (hlit : ∀ c : Char, f (.literal c) = [c])
include hlit

/-- Reading a character is the same on pieces and on what is written. -/
theorem step_write_literal (s : PieceScan) (c : Char) :
    (s.write f).step c = (s.step (.literal c)).write f := by
  have hpush : (s.push (.literal c)).write f = (s.write f).push c := by
    rw [write_push, hlit, Scan.push_eq_append]
  unfold Scan.step step
  rw [write_quote]
  cases s.quote with
  | some q =>
      by_cases hc : c = q
      · simp only [if_pos hc]
        rfl
      · simp only [if_neg hc, hpush]
  | none =>
      simp only
      split
      · rw [write_openQuote]
      · split
        · rw [write_endStage]
        · split
          · rw [write_endWord]
          · rw [hpush]

/-- Reading a piece is reading what is written for it, if the scanner admits what is written for a
reference. -/
theorem foldl_step_write_piece {s : PieceScan} (hs : (s.write f).WellQuoted) (p : Piece)
    (hadmits : p.isReference = true → (s.write f).Admits (f p)) :
    (f p).foldl Scan.step (s.write f) = (s.step p).write f := by
  cases p with
  | literal c =>
      rw [hlit, List.foldl_cons, List.foldl_nil]
      exact step_write_literal hlit s c
  | reference name braced =>
      rw [Scan.foldl_step_of_admits hs (hadmits rfl), ← write_push]
      rfl

/-- **Reading pieces is reading what is written for them**, if the scanner admits what is written
for every reference when it meets the reference. -/
theorem foldl_step_write {ps : List Piece} {s : PieceScan} (hs : (s.write f).WellQuoted)
    (hadmits : ∀ before p after, ps = before ++ p :: after → p.isReference = true →
      ((before.foldl step s).write f).WellQuoted → ((before.foldl step s).write f).Admits (f p)) :
    (ps.flatMap f).foldl Scan.step (s.write f) = (ps.foldl step s).write f := by
  induction ps generalizing s with
  | nil => rfl
  | cons p ps ih =>
      have hpiece := foldl_step_write_piece hlit hs p fun hp => hadmits [] p ps rfl hp hs
      have hnext : ((s.step p).write f).WellQuoted := by
        rw [← hpiece]
        exact hs.foldl (f p)
      rw [List.flatMap_cons, List.foldl_append, hpiece, List.foldl_cons]
      refine ih hnext fun before p' after heq hp' => ?_
      exact hadmits (p :: before) p' after (by rw [heq]; rfl) hp'

end Simulation

/-! ## What is kept -/

/-- The pieces that were put into words. -/
def kept (s : PieceScan) : List Piece :=
  s.finished.flatten.flatten ++ s.words.flatten ++ s.word.getD []

theorem kept_push (s : PieceScan) (p : Piece) : (s.push p).kept = s.kept ++ [p] := by
  simp [push, kept]

theorem kept_openQuote (s : PieceScan) (q : Char) : (s.openQuote q).kept = s.kept := by
  simp [openQuote, kept]

theorem kept_endWord (s : PieceScan) : s.endWord.kept = s.kept := by
  unfold endWord kept
  cases s.word with
  | none => simp
  | some w => simp

theorem kept_endStage (s : PieceScan) : s.endStage.kept = s.kept := by
  unfold endStage kept
  cases s.word with
  | none => simp
  | some w => simp

/-- The stages hold what was kept. -/
theorem flatten_groups (s : PieceScan) : s.groups.flatten.flatten = s.kept := by
  rw [← kept_endStage]
  simp [groups, endStage, kept]

/-- A piece is put into the word in progress, or it is a character that is left out. -/
theorem kept_step (s : PieceScan) (p : Piece) :
    (s.step p).kept = s.kept ++ [p] ∨ (s.step p).kept = s.kept ∧ p.isReference = false := by
  cases p with
  | reference name braced => exact Or.inl (kept_push s _)
  | literal c =>
      unfold step
      simp only
      split
      · split
        · exact Or.inr ⟨rfl, rfl⟩
        · exact Or.inl (kept_push s _)
      · split
        · exact Or.inr ⟨kept_openQuote s c, rfl⟩
        · split
          · exact Or.inr ⟨kept_endStage s, rfl⟩
          · split
            · exact Or.inr ⟨kept_endWord s, rfl⟩
            · exact Or.inl (kept_push s _)

/-- The pieces that are kept stand in the order of the line, and all references are kept. -/
theorem exists_kept_foldl_step (s : PieceScan) (ps : List Piece) :
    ∃ more : List Piece, (ps.foldl step s).kept = s.kept ++ more ∧ more.Sublist ps ∧
      more.filter Piece.isReference = ps.filter Piece.isReference := by
  induction ps generalizing s with
  | nil => exact ⟨[], (List.append_nil _).symm, List.Sublist.refl _, rfl⟩
  | cons p ps ih =>
      obtain ⟨more, hkept, hsub, hrefs⟩ := ih (s.step p)
      rw [List.foldl_cons, hkept]
      rcases kept_step s p with hp | ⟨hp, hno⟩
      · refine ⟨p :: more, by rw [hp, List.append_assoc]; rfl, hsub.cons_cons p, ?_⟩
        rw [List.filter_cons, List.filter_cons, hrefs]
      · refine ⟨more, by rw [hp], hsub.cons p, ?_⟩
        rw [List.filter_cons, hno, hrefs]
        rfl

end PieceScan

/-- The words of every stage of a line that has one, with the references still marked. -/
def pieceStages (line : Text) : List (List (List Piece)) :=
  ((Piece.ofLine line).foldl PieceScan.step {}).groups.filter fun words => !words.isEmpty

/-- The stages that have a word are the same before and after the pieces are written. -/
theorem filter_map_map_flatMap (f : Piece → Text) (groups : List (List (List Piece))) :
    (groups.map (List.map (List.flatMap f))).filter (fun words => !words.isEmpty) =
      (groups.filter fun words => !words.isEmpty).map (List.map (List.flatMap f)) := by
  rw [List.filter_map]
  refine congrArg _ (List.filter_congr fun words _ => ?_)
  rw [Function.comp_apply, List.isEmpty_map]

end TextShell
