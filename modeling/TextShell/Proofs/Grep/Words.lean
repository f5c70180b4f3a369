import Mathlib.Data.List.Infix
import TextShell.Proofs.Files
import TextShell.Proofs.Grep.Chained
import TextShell.Proofs.Grep.Item
import TextShell.Proofs.Pattern.Literal

/-!
# Looking for a word

A pattern made of word characters only stands for itself, so a search for it selects the lines that
hold it.  Between boundaries it is found where it stands with no word character on either side, that
is, as one of the maximal runs of word characters that a line is made of (`IsWordOf`).  Every place
of the line is tried, so an occurrence inside of a longer word is no hindrance.

## Main Definitions

* `IsWordOf`, `StandsAlone` — a word of a line, and where it stands
-/

namespace TextShell

/-- A maximal run of word characters of a line. -/
def IsWordOf (word line : Text) : Prop :=
  word ≠ [] ∧ (∀ c ∈ word, isWordChar c.toNat = true) ∧
    ∃ before after, line = before ++ word ++ after ∧
      (∀ c ∈ before.getLast?, isWordChar c.toNat = false) ∧
      ∀ c ∈ after.head?, isWordChar c.toNat = false

/-- A text stands at a place of a line, with no word character on either side. -/
def StandsAlone (word line : Text) (i : Nat) : Prop :=
  word <+: line.drop i ∧
    (∀ c ∈ (line.take i).getLast?, isWordChar c.toNat = false) ∧
    ∀ c ∈ (line.drop (i + word.length)).head?, isWordChar c.toNat = false

variable {word line : Text} {i : Nat}

/-- A word stands at a place of its line. -/
theorem isWordOf_iff :
    IsWordOf word line ↔
      word ≠ [] ∧ (∀ c ∈ word, isWordChar c.toNat = true) ∧
        ∃ i ≤ line.length, StandsAlone word line i := by
  refine and_congr_right fun _ => and_congr_right fun _ => ?_
  constructor
  · rintro ⟨before, after, rfl, hbefore, hafter⟩
    refine ⟨before.length, by simp, ?_, ?_, ?_⟩
    · simp
    · simpa using hbefore
    · rw [← List.length_append, List.drop_left]
      exact hafter
  · rintro ⟨i, hi, hword, hbefore, hafter⟩
    refine ⟨line.take i, line.drop (i + word.length), ?_, hbefore, hafter⟩
    have hrest : line.drop i = word ++ line.drop (i + word.length) := by
      rw [← List.drop_drop]
      exact (List.prefix_iff_eq_append.mp hword).symm
    rw [List.append_assoc, ← hrest, List.take_append_drop]

theorem any_isWordChar_eq_false {c? : Option Char} :
    (c?.any fun c => isWordChar c.toNat) = false ↔ ∀ c ∈ c?, isWordChar c.toNat = false := by
  cases c? with
  | none => exact iff_of_true rfl nofun
  | some c => simp

instance (word line : Text) (i : Nat) : Decidable (StandsAlone word line i) :=
  decidable_of_iff
    (word <+: line.drop i ∧
      ((line.take i).getLast?.any fun c => isWordChar c.toNat) = false ∧
      ((line.drop (i + word.length)).head?.any fun c => isWordChar c.toNat) = false)
    (by simp only [StandsAlone, any_isWordChar_eq_false])

instance (word line : Text) : Decidable (IsWordOf word line) :=
  decidable_of_iff
    (word ≠ [] ∧ (word.all fun c => isWordChar c.toNat) = true ∧
      ∃ i ≤ line.length, StandsAlone word line i)
    (by simp only [isWordOf_iff, List.all_eq_true])

/-! ## Boundaries -/

theorem wordAt_eq (line : Text) (i : Nat) :
    wordAt { unicode := true } line.toArray i =
      (line.drop i).head?.any fun c => isWordChar c.toNat := by
  rw [wordAt, List.getElem?_toArray, ← List.head?_drop]
  cases (line.drop i).head? with
  | none => rfl
  | some c => rfl

theorem wordBefore_eq (hi : i ≤ line.length) :
    wordBefore { unicode := true } line.toArray i =
      (line.take i).getLast?.any fun c => isWordChar c.toNat := by
  cases i with
  | zero => rfl
  | succ i =>
      have hlast : (line.take (i + 1)).getLast? = (line.drop i).head? := by
        rw [List.getLast?_take, if_neg (Nat.succ_ne_zero i), List.head?_drop, Nat.add_sub_cancel,
          List.getElem?_eq_getElem hi]
        rfl
      rw [wordBefore, wordAt_eq, hlast]

section Occurrence

variable (hne : word ≠ []) (hword : ∀ c ∈ word, isWordChar c.toNat = true) (hi : i ≤ line.length)
  (hp : word <+: line.drop i)

include hne hp in
theorem holds_boundary (j : Nat) :
    Anchor.boundary.holds { unicode := true } line.toArray j =
      (wordBefore { unicode := true } line.toArray j !=
        wordAt { unicode := true } line.toArray j) := by
  have hline : (line.toArray.size != 0) = true := by
    rw [bne_iff_ne]
    rintro hsize
    obtain rfl : line = [] := List.eq_nil_of_length_eq_zero hsize
    exact hne (List.prefix_nil.mp (List.drop_nil ▸ hp))
  rw [Anchor.holds, hline, Bool.true_and]
  rfl

include hne hword hi hp in
/-- The place where a word begins is a boundary if no word character stands before it. -/
theorem boundary_before_iff :
    Anchor.boundary.holds { unicode := true } line.toArray i = true ↔
      ∀ c ∈ (line.take i).getLast?, isWordChar c.toNat = false := by
  have hat : wordAt { unicode := true } line.toArray i = true := by
    obtain ⟨c, cs, rfl⟩ := List.exists_cons_of_ne_nil hne
    obtain ⟨rest, hrest⟩ := hp
    rw [wordAt_eq, ← hrest]
    exact hword c List.mem_cons_self
  rw [holds_boundary hne hp, hat, wordBefore_eq hi, ← any_isWordChar_eq_false]
  cases (line.take i).getLast?.any fun c => isWordChar c.toNat <;> decide

include hne hword hi hp in
/-- The place where a word ends is a boundary if no word character stands after it. -/
theorem boundary_after_iff :
    Anchor.boundary.holds { unicode := true } line.toArray (i + word.length) = true ↔
      ∀ c ∈ (line.drop (i + word.length)).head?, isWordChar c.toNat = false := by
  have hlength : i + word.length ≤ line.length := by
    have hle := hp.length_le
    rw [List.length_drop] at hle
    omega
  have hbefore : wordBefore { unicode := true } line.toArray (i + word.length) = true := by
    rw [wordBefore_eq hlength, List.take_add, ← List.prefix_iff_eq_take.mp hp, List.getLast?_append,
      List.getLast?_eq_getLast_of_ne_nil hne]
    exact hword _ (List.getLast_mem hne)
  rw [holds_boundary hne hp, hbefore, wordAt_eq, ← any_isWordChar_eq_false]
  cases (line.drop (i + word.length)).head?.any fun c => isWordChar c.toNat <;> decide

end Occurrence

theorem isOrdinary_of_isWordChar {c : Char} (h : isWordChar c.toNat = true) :
    isOrdinary c = true := by
  have hspecial : specialChars.any (fun d => isWordChar d.toNat) = false := by decide +kernel
  rw [isOrdinary, Bool.not_eq_true', List.contains_eq_mem, decide_eq_false_iff_not]
  intro hc
  exact List.any_eq_false.mp hspecial c hc h

/-- **Between boundaries a word is found in the lines of which it is a word.** -/
theorem found_betweenBoundaries_iff_isWordOf (hne : word ≠ [])
    (hword : ∀ c ∈ word, isWordChar c.toNat = true) :
    (Regex.literal word).betweenBoundaries.found line = true ↔ IsWordOf word line := by
  rw [Regex.found_betweenBoundaries_literal, isWordOf_iff]
  constructor
  · rintro ⟨i, hi, hp, hstart, hend⟩
    exact ⟨hne, hword, i, hi, hp, (boundary_before_iff hne hword hi hp).mp hstart,
      (boundary_after_iff hne hword hi hp).mp hend⟩
  · rintro ⟨-, -, i, hi, hp, hbefore, hafter⟩
    exact ⟨i, hi, hp, (boundary_before_iff hne hword hi hp).mpr hbefore,
      (boundary_after_iff hne hword hi hp).mpr hafter⟩

/-! ## The command -/

theorem runGrep_eq_done {w : World} {args : List Text} {o : GrepOptions} {r : Regex}
    (hargs : GrepOptions.ofArguments args = .ok o) (hfiles : o.files = [])
    (hregex : o.regex = .ok r) (hr : r.pattern.hasPossessive = false) (input : Text) :
    runGrep w args input = .done (filterLines r.found o.after input) := by
  rw [runGrep_of_accepted hargs hregex, hfiles]
  exact selectFrom_of_searchesAll (Regex.searchesAll_of_not_hasPossessive hregex hr input)

theorem ofArguments_word (hword : ∀ c ∈ word, isWordChar c.toNat = true) :
    GrepOptions.ofArguments [word] = .ok { pattern := word } ∧
      GrepOptions.ofArguments [['-', 'w'], word] = .ok { pattern := word, wholeWord := true } := by
  have hpositional : GrepItem.ofArgument word = .positional word := by
    refine GrepGrammar.ofArgument_of_isPositional (.inr fun hminus => ?_)
    have hnot : isWordChar '-'.toNat = false := by decide +kernel
    rw [hword _ (List.mem_of_mem_head? hminus)] at hnot
    cases hnot
  have hswitch : GrepItem.ofArgument ['-', 'w'] = .switches [.wholeWord] := rfl
  constructor
  · rw [GrepOptions.ofArguments, GrepDraft.read, hpositional]
    rfl
  · rw [GrepOptions.ofArguments, GrepDraft.read, hswitch]
    dsimp only
    rw [GrepDraft.read, hpositional]
    rfl

/-- **Looking for a word.**  A pattern of word characters selects the lines that hold it, and as a
whole word the lines of which it is a word. -/
theorem runGrep_word (w : World) (hne : word ≠ []) (hword : ∀ c ∈ word, isWordChar c.toNat = true)
    (text : Text) :
    runGrep w [word] text =
        .done (((text.pieces '\n').filter fun line => word <:+: line).flatMap endLine) ∧
      runGrep w [['-', 'w'], word] text =
        .done (((text.pieces '\n').filter fun line => IsWordOf word line).flatMap endLine) := by
  have hordinary : ∀ c ∈ word, isOrdinary c = true :=
    fun c hc => isOrdinary_of_isWordChar (hword c hc)
  obtain ⟨hanywhere, hasWord⟩ := ofArguments_word hword
  have hpossessive : (Regex.literal word).betweenBoundaries.pattern.hasPossessive = false :=
    (Pattern.hasPossessive_betweenBoundaries _).trans (Pattern.hasPossessive_literal word)
  have hregex : GrepOptions.regex { pattern := word } = .ok (.literal word) :=
    Regex.compile_literal hordinary
  have hregex' : GrepOptions.regex { pattern := word, wholeWord := true } =
      .ok (Regex.literal word).betweenBoundaries :=
    Regex.compile_wholeWords_literal hordinary
  constructor
  · rw [runGrep_eq_done hanywhere rfl hregex (Pattern.hasPossessive_literal word), filterLines,
      selectLines_zero]
    congr 2
    refine List.filter_congr fun line _ => ?_
    rw [Bool.eq_iff_iff, Regex.found_literal hne, decide_eq_true_iff]
  · rw [runGrep_eq_done hasWord rfl hregex' hpossessive, filterLines, selectLines_zero]
    congr 2
    refine List.filter_congr fun line _ => ?_
    rw [Bool.eq_iff_iff, found_betweenBoundaries_iff_isWordOf hne hword, decide_eq_true_iff]

/-- A whole word after an occurrence inside of a longer word, one in brackets and none at all. -/
theorem runGrep_word_after_longer_word :
    let w : World := ⟨fun _ => none, fun _ _ _ => .interrupted, ['/']⟩
    let word : Text := ['é', '1']
    let text : Text :=
      ['é', '1', 'b', ' ', 'é', '1', '\n', 'x', 'é', '1', '\n', '(', 'é', '1', ')', '\n', 'é', ' ',
        '1']
    (word ≠ [] ∧ ∀ c ∈ word, isWordChar c.toNat = true) ∧
      runGrep w [word] text = .done
        ['é', '1', 'b', ' ', 'é', '1', '\n', 'x', 'é', '1', '\n', '(', 'é', '1', ')', '\n'] ∧
      runGrep w [['-', 'w'], word] text = .done
        ['é', '1', 'b', ' ', 'é', '1', '\n', '(', 'é', '1', ')', '\n'] := by
  intro w word text
  have hne : word ≠ [] := List.cons_ne_nil _ _
  have hword : ∀ c ∈ word, isWordChar c.toNat = true := List.all_eq_true.mp (by decide +kernel)
  obtain ⟨hanywhere, hasWord⟩ := runGrep_word w hne hword text
  refine ⟨⟨hne, hword⟩, hanywhere.trans ?_, hasWord.trans ?_⟩
  · exact congrArg Run.done (by decide +kernel)
  · exact congrArg Run.done (by decide +kernel)

end TextShell
