import TextShell.Text.Basic

/-!
# Similar texts

Two texts are similar if enough of their characters agree. The characters that agree are those of the
longest block that both have, and of the blocks found in the same way to its left and to its right.

## Main Definitions

* `longestBlock` — the longest block that two texts have in common
* `agreement` — how many characters of two texts agree
* `similarTexts` — the texts that are most similar to a given one
-/

namespace TextShell

/-- How many characters two texts have in common at their start. -/
def sharedStart : Text → Text → Nat
  | a :: as, b :: bs => if a = b then sharedStart as bs + 1 else 0
  | _, _ => 0

/-- A block that two texts have in common: where it stands in either of them, and its length. -/
structure Block where
  left : Nat
  right : Nat
  size : Nat
  deriving DecidableEq, Repr

/-- Every place in either text, in order, with the block that begins there. -/
def blocks (a b : Text) : List Block :=
  (List.range a.length).flatMap fun i =>
    (List.range b.length).map fun j => ⟨i, j, sharedStart (a.drop i) (b.drop j)⟩

/-- The longest block, the first one of several. -/
def longestBlock (a b : Text) : Block :=
  (blocks a b).foldl (fun best x => if best.size < x.size then x else best) ⟨0, 0, 0⟩

/-- How many characters of two texts agree. -/
def agreement (a b : Text) : Nat :=
  match longestBlock a b with
  | ⟨left, right, size⟩ =>
    if _h : 0 < size ∧ left < a.length then
      agreement (a.take left) (b.take right) + size +
        agreement (a.drop (left + size)) (b.drop (right + size))
    else 0
termination_by a.length
decreasing_by
  all_goals
    simp only [List.length_take, List.length_drop]
    omega

/-- Whether `n` agreeing characters make three fifths of two texts. -/
def isEnough (n : Nat) (a b : Text) : Bool :=
  decide (3 * (a.length + b.length) ≤ 10 * n)

/-- Whether two texts are similar. Texts of very different lengths need not be compared. -/
def isSimilar (a b : Text) : Bool :=
  isEnough (min a.length b.length) a b && isEnough (agreement a b) a b

/-- Whether `x` is at least as similar to `word` as `y`. Of equally similar texts the greater counts as
more similar. -/
def isCloser (word x y : Text) : Bool :=
  let left := agreement x word * (y.length + word.length)
  let right := agreement y word * (x.length + word.length)
  decide (right < left) || left == right && y.notAfter x

/-- The three texts that are most similar to `word`, in alphabetical order. -/
def similarTexts (word : Text) (texts : List Text) : List Text :=
  let similar := texts.filter fun t => isSimilar t word
  ((similar.mergeSort (isCloser word)).take 3).mergeSort Text.notAfter

end TextShell
