import TextShell.Text.Blank

/-!
# How many words a text has

A character in front of a text adds a word unless it is a blank or joins the first word of the text
(`Text.length_words_cons`).  So two texts have together one word more than their concatenation if
they meet inside of a word, and as many if they do not (`Text.length_words_append`).

Which texts are words can be said without cutting anything (`IsWord`), and words that are joined by
blanks are the words of what they make up (`Text.words_joinWith`).

## Main Definitions

* `IsWord` — a text that may be a word
* `Text.meetInWord` — the first text ends and the second one begins with a character of a word
-/

namespace TextShell

/-- **A text that may be a word**: it is not empty and holds no blank. -/
def IsWord (t : Text) : Prop :=
  t ≠ [] ∧ ∀ c ∈ t, isBlank c = false

namespace Text

/-! ## Single words -/

theorem isWord_of_mem_words {t word : Text} (h : word ∈ t.words) : IsWord word := by
  obtain ⟨hpart, hne⟩ := List.mem_filter.mp h
  exact ⟨by simpa using hne, fun c hc => not_sep_of_mem_piecesBy hpart hc⟩

/-- A blank in front makes no word. -/
theorem words_cons_of_isBlank {c : Char} (hc : isBlank c = true) (t : Text) :
    words (c :: t) = words t := by
  simp [words, piecesBy, hc]

/-- A word is its only one. -/
theorem words_of_isWord {t : Text} (h : IsWord t) : words t = [t] := by
  rw [words, piecesBy_of_no_sep h.2]
  simp [h.1]

/-- A blank ends a word. -/
theorem words_append_cons {t : Text} (h : IsWord t) {c : Char} (hc : isBlank c = true)
    (rest : Text) : words (t ++ c :: rest) = t :: words rest := by
  rw [words, piecesBy_append_cons h.2 hc]
  simp [h.1, words]

/-- **Words with a blank between neighbours** are the words of what they make up. -/
theorem words_joinWith {c : Char} (hc : isBlank c = true) {ts : List Text}
    (h : ∀ t ∈ ts, IsWord t) : words (joinWith [c] ts) = ts := by
  induction ts with
  | nil => rfl
  | cons t ts ih =>
      have ht := h t List.mem_cons_self
      have hts := ih fun u hu => h u (List.mem_cons_of_mem _ hu)
      by_cases hne : ts = []
      · rw [hne]
        exact words_of_isWord ht
      · rw [joinWith_cons _ _ hne, List.append_assoc, List.singleton_append,
          words_append_cons ht hc, hts]

/-- What neither the texts nor the separator holds is not in the joined text. -/
theorem not_mem_joinWith {c : Char} {sep : Text} (hsep : c ∉ sep) {ts : List Text}
    (h : ∀ t ∈ ts, c ∉ t) : c ∉ joinWith sep ts := by
  induction ts with
  | nil => exact List.not_mem_nil
  | cons t ts ih =>
      have ht := h t List.mem_cons_self
      have hts := ih fun u hu => h u (List.mem_cons_of_mem _ hu)
      by_cases hne : ts = []
      · rwa [hne]
      · rw [joinWith_cons _ _ hne]
        simp [ht, hsep, hts]

/-! ## How many words there are -/

/-- Whether two texts make one word where they meet: the first one ends, and the second one begins,
with a character that is no blank. -/
def meetInWord (a b : Text) : Bool :=
  a.getLast?.any (fun c => !isBlank c) && b.head?.any (fun c => !isBlank c)

/-- The first part of a text is empty unless the text begins with a character of that part. -/
theorem isEmpty_head_piecesBy {sep : Char → Bool} {t part : Text} {parts : List Text}
    (h : piecesBy sep t = part :: parts) :
    part.isEmpty = !t.head?.any (fun c => !sep c) := by
  cases t with
  | nil =>
      obtain ⟨rfl, -⟩ := List.cons.inj h
      rfl
  | cons c cs =>
      cases hc : sep c with
      | true =>
          simp only [piecesBy, hc, if_true] at h
          obtain ⟨rfl, -⟩ := List.cons.inj h
          simp [hc]
      | false =>
          obtain ⟨first, rest, hcs⟩ := List.exists_cons_of_ne_nil (piecesBy_ne_nil sep cs)
          simp only [piecesBy, hc, hcs, Bool.false_eq_true, if_false] at h
          obtain ⟨rfl, -⟩ := List.cons.inj h
          simp [hc]

/-- **A character in front of a text** makes a word unless it is a blank or joins one. -/
theorem length_words_cons (c : Char) (t : Text) :
    (words (c :: t)).length + (if meetInWord [c] t then 1 else 0) =
      (words [c]).length + (words t).length := by
  cases hc : isBlank c with
  | true => simp [meetInWord, hc, words, piecesBy]
  | false =>
      -- the character joins the first part of `t`, which is a word already if it is not empty
      obtain ⟨part, parts, ht⟩ := List.exists_cons_of_ne_nil (piecesBy_ne_nil isBlank t)
      have hpart := isEmpty_head_piecesBy ht
      cases hmeet : t.head?.any (fun d => !isBlank d) with
      | true => simp [words, piecesBy, meetInWord, hc, ht, hpart, hmeet]; omega
      | false => simp [words, piecesBy, meetInWord, hc, ht, hpart, hmeet]; omega

theorem meetInWord_cons_cons (c d : Char) (cs b : Text) :
    meetInWord (c :: d :: cs) b = meetInWord (d :: cs) b := by
  simp [meetInWord]

/-- **Two texts one after the other** have as many words as they have apart, less the one that they
share if they meet inside of it. -/
theorem length_words_append (a b : Text) :
    (words (a ++ b)).length + (if meetInWord a b then 1 else 0) =
      (words a).length + (words b).length := by
  induction a with
  | nil => simp [meetInWord, words, piecesBy]
  | cons c cs ih =>
      cases cs with
      | nil => exact length_words_cons c b
      | cons d ds =>
          have hfront := length_words_cons c (d :: ds)
          have hwhole := length_words_cons c (d :: ds ++ b)
          have hsame : meetInWord [c] (d :: ds ++ b) = meetInWord [c] (d :: ds) := rfl
          rw [hsame] at hwhole
          rw [meetInWord_cons_cons, List.cons_append]
          omega

end Text

end TextShell
