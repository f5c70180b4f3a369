import TextShell.Proofs.Files.Input
import TextShell.Proofs.Text.Words

/-!
# The total of several files and the counts of them together

`wc` counts each of its files on its own and adds the numbers up, while `cat` puts the files together
for `wc` to count.  The two agree about the characters only.  A line goes on in the next file when
the files are put together, so that one line is lost at each of the places where two files meet.  A
word goes on as well, but only where both of the files have a character of a word there; an empty
file does not keep its neighbours apart (`Text.length_words_flatten`).

## Main Definitions

* `Text.sharedWords` — at how many places two neighbours among some texts make one word
-/

namespace TextShell

namespace Text

/-- At how many places a text and the one after it make one word. -/
def sharedWords (ts : List Text) : Nat :=
  (ts.zip ts.tail).countP fun p => meetInWord p.1 p.2

theorem sharedWords_cons_cons (t u : Text) (us : List Text) :
    sharedWords (t :: u :: us) = sharedWords (u :: us) + if meetInWord t u then 1 else 0 :=
  List.countP_cons

/-- There is at most one place less than there are texts. -/
theorem sharedWords_le (ts : List Text) : sharedWords ts ≤ ts.length - 1 := by
  refine List.countP_le_length.trans ?_
  rw [List.length_zip, List.length_tail]
  exact Nat.min_le_right ..

/-- No word is shared by texts that end in a blank. -/
theorem sharedWords_eq_zero {ts : List Text} (h : ∀ t ∈ ts, ∀ c ∈ t.getLast?, isBlank c = true) :
    sharedWords ts = 0 := by
  refine List.countP_eq_zero.mpr fun p hp hmeet => ?_
  obtain ⟨hlast, -⟩ := Bool.and_eq_true_iff.mp hmeet
  obtain ⟨c, hc, hblank⟩ := (Option.any_eq_true _ _).mp hlast
  simp [h p.1 (List.of_mem_zip hp).1 c hc] at hblank

/-- Texts that are not empty have the words of what they make up, and one more for each place where
two of them make one word. -/
theorem length_words_flatten_of_ne_nil {ts : List Text} (h : ∀ t ∈ ts, t ≠ []) :
    (ts.map fun t => (words t).length).sum = (words ts.flatten).length + sharedWords ts := by
  induction ts with
  | nil => rfl
  | cons t us ih =>
      have hus := ih fun u hu => h u (List.mem_cons_of_mem _ hu)
      cases us with
      | nil => simp [sharedWords]
      | cons u vs =>
          -- the rest begins as its first text does, for that is not empty
          obtain ⟨c, cs, rfl⟩ := List.exists_cons_of_ne_nil (h u (by simp))
          have hmeet : meetInWord t ((c :: cs) :: vs).flatten = meetInWord t (c :: cs) := rfl
          have happend := length_words_append t ((c :: cs) :: vs).flatten
          rw [hmeet, ← List.flatten_cons] at happend
          rw [List.map_cons, List.sum_cons, hus, sharedWords_cons_cons]
          omega

/-- The texts that are not empty. -/
theorem sum_map_filter_ne_nil (ts : List Text) :
    ((ts.filter fun t => !t.isEmpty).map fun t => (words t).length).sum =
      (ts.map fun t => (words t).length).sum := by
  induction ts with
  | nil => rfl
  | cons t ts ih =>
      cases t with
      | nil => simpa [words, piecesBy] using ih
      | cons c cs => simpa using ih

/-- **The words of texts that are put together**: an empty text does not keep its neighbours
apart. -/
theorem length_words_flatten (ts : List Text) :
    (ts.map fun t => (words t).length).sum =
      (words ts.flatten).length + sharedWords (ts.filter fun t => !t.isEmpty) := by
  have hne : ∀ t ∈ ts.filter fun t => !t.isEmpty, t ≠ [] := by simp
  have h := length_words_flatten_of_ne_nil hne
  rwa [sum_map_filter_ne_nil, List.flatten_filter_not_isEmpty] at h

/-- Every text has a part of its own, and what the texts make up has one for all of them. -/
theorem length_pieces_flatten (sep : Char) (ts : List Text) :
    (ts.map fun t => (pieces sep t).length).sum + 1 =
      (pieces sep ts.flatten).length + ts.length := by
  induction ts with
  | nil => rfl
  | cons t ts ih =>
      simp only [pieces, length_piecesBy, List.map_cons, List.sum_cons, List.flatten_cons,
        List.countP_append, List.length_cons] at ih ⊢
      omega

end Text

/-! ## The counts -/

namespace Counts

theorem characters_sum_ofText (ts : List Text) :
    (sum (ts.map ofText)).characters = (ofText ts.flatten).characters := by
  simp [sum, ofText, Function.comp_def]

theorem words_sum_ofText (ts : List Text) :
    (sum (ts.map ofText)).words =
      (ofText ts.flatten).words + Text.sharedWords (ts.filter fun t => !t.isEmpty) := by
  show ((ts.map ofText).map words).sum = _
  rw [List.map_map]
  exact Text.length_words_flatten ts

theorem lines_sum_ofText (ts : List Text) :
    (sum (ts.map ofText)).lines + 1 = (ofText ts.flatten).lines + ts.length := by
  show ((ts.map ofText).map lines).sum + 1 = _
  rw [List.map_map]
  exact Text.length_pieces_flatten '\n' ts

end Counts

/-- **The total of several files, and the counts of the same files put together by `cat`.**  The
characters are the same.  The total has one line more for each file after the first one, and one word
more for each place where two files that are not empty, with at most empty ones between them, make
one word.  So the words are the same if every file is empty or ends in a blank. -/
theorem Command.wc_total_and_cat_wc {w : World} {files : List (Text × Text)}
    (hmany : 2 ≤ files.length) (hreads : ∀ file ∈ files, w.Reads file.1 file.2) (input : Text) :
    let paths := files.map Prod.fst
    let texts := files.map Prod.snd
    let reads : List Event := files.map fun file => .read file.1
    let rows := files.map fun file => titledCounts file.1 (Counts.ofText file.2)
    let total := Counts.sum (texts.map Counts.ofText)
    let joined := Counts.ofText texts.flatten
    (Command.builtin .wc paths).run w input =
      ⟨reads, .ok (Text.joinWith ['\n'] (rows ++ [titledCounts "total" total]))⟩ ∧
    (Pipeline.run w ⟨.builtin .cat paths, [.builtin .wc []]⟩).unlogged =
      ⟨reads, .ok joined.shown⟩ ∧
    total.characters = joined.characters ∧
    total.lines = joined.lines + (files.length - 1) ∧
    total.words = joined.words + Text.sharedWords (texts.filter fun t => !t.isEmpty) ∧
    joined.words ≤ total.words ∧ total.words ≤ joined.words + (files.length - 1) ∧
    ((∀ t ∈ texts, ∀ c ∈ t.getLast?, isBlank c = true) → total.words = joined.words) := by
  intro paths texts reads rows total joined
  have hne : files ≠ [] := List.ne_nil_of_length_pos (by omega)
  have hlength : texts.length = files.length := List.length_map _
  have hlines : total.lines + 1 = joined.lines + texts.length := Counts.lines_sum_ofText texts
  have hwords : total.words =
      joined.words + Text.sharedWords (texts.filter fun t => !t.isEmpty) :=
    Counts.words_sum_ofText texts
  have hshared : Text.sharedWords (texts.filter fun t => !t.isEmpty) ≤ files.length - 1 := by
    have hle := Text.sharedWords_le (texts.filter fun t => !t.isEmpty)
    have hkept := List.length_filter_le (fun t => !t.isEmpty) texts
    omega
  refine ⟨?_, ?_, Counts.characters_sum_ofText texts, by omega, hwords, by omega, by omega, ?_⟩
  · have htotal : total = Counts.sum (files.map fun file => Counts.ofText file.2) :=
      congrArg Counts.sum List.map_map
    have hrun := runWc_eq_ok hne hreads input
    rw [countReport, if_pos (by omega)] at hrun
    rw [htotal]
    exact hrun
  · simpa [Command.run, runWc, pure, Run.done, Run.unlogged] using
      unlogged_run_cat_pipe hne hreads (.builtin .wc [])
  · intro hblank
    have hzero : Text.sharedWords (texts.filter fun t => !t.isEmpty) = 0 :=
      Text.sharedWords_eq_zero fun t ht => hblank t (List.mem_of_mem_filter ht)
    omega

/-- The empty file in the middle does not keep the words of its neighbours apart. -/
theorem Command.wc_total_and_cat_wc_empty_between :
    let w : World := ⟨fun path =>
        if path = ['f'] then some (.content [97])
        else if path = ['g'] then some (.content [])
        else if path = ['h'] then some (.content [98, 10]) else none,
      fun _ _ _ => .interrupted, ['/']⟩
    let files : List (Text × Text) := [(['f'], ['a']), (['g'], []), (['h'], ['b', '\n'])]
    let paths := files.map Prod.fst
    (2 ≤ files.length ∧ ∀ file ∈ files, w.Reads file.1 file.2) ∧
    ((Command.builtin .wc paths).run w []).outcome =
      .ok (Text.joinWith ['\n'] ["f: 1 1 1", "g: 1 0 0", "h: 2 1 2", "total: 4 2 3"]) ∧
    (Pipeline.run w ⟨.builtin .cat paths, [.builtin .wc []]⟩).outcome = .ok "2 1 3" := by
  intro w files paths
  have hf : w.Reads ['f'] ['a'] := ⟨rfl, [97], rfl, by decide +kernel⟩
  have hg : w.Reads ['g'] [] := ⟨rfl, [], rfl, by decide +kernel⟩
  have hh : w.Reads ['h'] ['b', '\n'] := ⟨rfl, [98, 10], rfl, by decide +kernel⟩
  have hreads : ∀ file ∈ files, w.Reads file.1 file.2 :=
    List.forall_mem_cons.mpr ⟨hf, List.forall_mem_cons.mpr ⟨hg, List.forall_mem_singleton.mpr hh⟩⟩
  have hmany : 2 ≤ files.length := by decide
  obtain ⟨hwc, hcat, -⟩ := Command.wc_total_and_cat_wc hmany hreads []
  refine ⟨⟨hmany, hreads⟩, (congrArg Run.outcome hwc).trans ?_,
    (congrArg Run.outcome hcat).trans ?_⟩
  · exact congrArg Except.ok (by decide +kernel)
  · exact congrArg Except.ok (by decide +kernel)

end TextShell
