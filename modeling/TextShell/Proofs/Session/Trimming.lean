import TextShell.Proofs.Line.SafeValues
import TextShell.Proofs.Session.Line
import TextShell.Script

/-!
# Lines without their outer blanks

A script runs its lines without their outer blanks.  The blanks before a line never matter.  Those
after it only end the last word, unless a quote is still open there: then they are part of the last
word, and taking them off changes the statement.

Values may hold quotes, so whether a quote is open is known only after substitution.  No reference
begins, ends or goes on at a blank, so the blanks stay where they are when the rest is substituted
(`substitute_trim`), and the scan differs at the end of the line only.

## Main Definitions

* `Text.blanksBefore`, `Text.blanksAfter` — the outer blanks of a text
* `Statement.sourceStages` — the stages that make a statement
-/

namespace TextShell

/-! ## The blanks -/

namespace Text

/-- The blanks at the beginning of a text. -/
def blanksBefore (t : Text) : Text :=
  t.takeWhile isBlank

/-- The blanks at the end of a text; of a text of blanks all belong to its beginning. -/
def blanksAfter (t : Text) : Text :=
  ((t.dropWhile isBlank).reverse.takeWhile isBlank).reverse

/-- A text is made up of its outer blanks and what is in between. -/
theorem blanks_append_trim_append_blanks (t : Text) :
    t.blanksBefore ++ (t.trim ++ t.blanksAfter) = t := by
  rw [trim, trimBy, blanksAfter, ← List.reverse_append, List.takeWhile_append_dropWhile,
    List.reverse_reverse, blanksBefore, List.takeWhile_append_dropWhile]

theorem isBlank_of_mem_takeWhile {t : Text} {c : Char} (h : c ∈ t.takeWhile isBlank) :
    isBlank c = true :=
  List.all_eq_true.mp List.all_takeWhile c h

theorem isBlank_of_mem_blanksBefore {t : Text} {c : Char} (h : c ∈ t.blanksBefore) :
    isBlank c = true :=
  isBlank_of_mem_takeWhile h

theorem isBlank_of_mem_blanksAfter {t : Text} {c : Char} (h : c ∈ t.blanksAfter) :
    isBlank c = true :=
  isBlank_of_mem_takeWhile (List.mem_reverse.mp h)

end Text

/-- No name goes on at a blank, and no brace. -/
theorem isSeam_of_blanks {b : Text} (h : ∀ c ∈ b, isBlank c = true) : IsSeam b := by
  intro c hc
  have hblank := h c (List.mem_of_mem_head? hc)
  refine ⟨?_, ?_, ?_⟩
  · cases hname : isNameChar c with
    | false => rfl
    | true =>
        obtain ⟨hno, -⟩ := isPlain_iff.mp (isPlain_of_isNameChar hname)
        rw [hno] at hblank
        cases hblank
  · rintro rfl
    revert hblank
    decide
  · rintro rfl
    revert hblank
    decide

/-! ## Substitution -/

section Substitute

variable (lookup : Text → Text)

/-- Blanks in front are kept. -/
theorem substitute_blanks_append {b : Text} (h : ∀ c ∈ b, isBlank c = true) (t : Text) :
    substitute lookup (b ++ t) = b ++ substitute lookup t := by
  induction b with
  | nil => rfl
  | cons c cs ih =>
      have hne : c ≠ '$' := by
        rintro rfl
        exact absurd (h _ List.mem_cons_self) (by decide)
      rw [List.cons_append, substitute_cons_of_not_beginsReference lookup
        (not_beginsReference_cons hne), ih fun d hd => h d (List.mem_cons_of_mem _ hd)]
      rfl

/-- **Taking the outer blanks off commutes with substitution**, as far as the blanks of the line
itself are concerned. -/
theorem substitute_trim (line : Text) :
    substitute lookup line =
      line.blanksBefore ++ (substitute lookup line.trim ++ line.blanksAfter) := by
  have hafter : ∀ c ∈ line.blanksAfter, isBlank c = true := fun c =>
    Text.isBlank_of_mem_blanksAfter
  have hblanks := substitute_blanks_append lookup hafter []
  rw [List.append_nil, substitute_nil, List.append_nil] at hblanks
  calc substitute lookup line
      = substitute lookup (line.blanksBefore ++ (line.trim ++ line.blanksAfter)) := by
        rw [line.blanks_append_trim_append_blanks]
    _ = line.blanksBefore ++ substitute lookup (line.trim ++ line.blanksAfter) :=
        substitute_blanks_append lookup (fun c => Text.isBlank_of_mem_blanksBefore) _
    _ = line.blanksBefore ++ (substitute lookup line.trim ++ line.blanksAfter) := by
        rw [substitute_append_of_seam lookup (isSeam_of_blanks hafter), hblanks]

end Substitute

/-! ## Scanning -/

section Scan

variable {b : Text}

/-- Blanks in front of a line are passed over. -/
theorem scan_blanks_append (h : ∀ c ∈ b, isBlank c = true) (t : Text) :
    scan (b ++ t) = scan t := by
  induction b with
  | nil => rfl
  | cons c cs ih =>
      have hstep : Scan.step {} c = {} := Scan.step_of_isBlank rfl (h c List.mem_cons_self)
      have hcs := ih fun d hd => h d (List.mem_cons_of_mem _ hd)
      rw [scan] at hcs ⊢
      rw [List.cons_append, List.foldl_cons, hstep, hcs]

/-- Outside of quotes blanks end the word in progress and do nothing else. -/
theorem groups_foldl_step_blanks {s : Scan} (hs : s.quote = none)
    (h : ∀ c ∈ b, isBlank c = true) : (b.foldl Scan.step s).groups = s.groups := by
  induction b generalizing s with
  | nil => rfl
  | cons c cs ih =>
      have hcs := fun d hd => h d (List.mem_cons_of_mem _ hd)
      rw [List.foldl_cons, Scan.step_of_isBlank hs (h c List.mem_cons_self),
        ih (s.endWord_quote.trans hs) hcs, Scan.groups, Scan.endStage_endWord]
      rfl

/-- A line whose quotes are closed has the same stages with blanks after it. -/
theorem stages_append_blanks {t : Text} (ht : (lastStage t).inQuote = false)
    (h : ∀ c ∈ b, isBlank c = true) : stages (t ++ b) = stages t := by
  have hquote : (scan t).quote = none := by simpa [lastStage] using ht
  rw [stages, scan_append, groups_foldl_step_blanks hquote h]
  rfl

/-- **An open quote takes the blanks after the line into the last word.** -/
theorem stages_append_blanks_of_inQuote {t : Text} (ht : (lastStage t).inQuote = true)
    (h : ∀ c ∈ b, isBlank c = true) :
    ∃ before words word, stages t = before ++ [words ++ [word]] ∧
      stages (t ++ b) = before ++ [words ++ [word ++ b]] := by
  obtain ⟨q, hq⟩ := Option.isSome_iff_exists.mp ht
  obtain ⟨hquote, hword⟩ := Scan.wellQuoted_scan t q hq
  obtain ⟨w, hw⟩ := Option.isSome_iff_exists.mp hword
  -- no blank closes the quote
  have hadmits : (scan t).Admits b := (Scan.admits_of_quote_eq_some hq).mpr fun hmem => by
    have hno := isBlank_eq_false_of_isQuote hquote
    rw [h q hmem] at hno
    cases hno
  have hscan : scan (t ++ b) = (scan t).append b := by
    rw [scan_append, Scan.foldl_step_of_admits (Scan.wellQuoted_scan t) hadmits]
  refine ⟨(scan t).finished.reverse.filter fun words => !words.isEmpty,
    (scan t).words.reverse, w.reverse, ?_, ?_⟩
  · rw [stages, Scan.groups_eq, List.filter_append]
    simp [Scan.endWord, hw]
  · rw [stages, hscan, Scan.groups_eq, List.filter_append]
    simp [Scan.endWord, Scan.append, hw]

/-- The stages stay the same if all quotes are closed, or no blank is added, and else they do not. -/
theorem stages_append_blanks_eq_iff {t : Text} (h : ∀ c ∈ b, isBlank c = true) :
    stages t = stages (t ++ b) ↔ (lastStage t).inQuote = false ∨ b = [] := by
  constructor
  · intro hsame
    cases hquote : (lastStage t).inQuote with
    | false => exact .inl rfl
    | true =>
        obtain ⟨before, words, word, hleft, hright⟩ := stages_append_blanks_of_inQuote hquote h
        rw [hleft, hright] at hsame
        exact .inr (by simpa using hsame)
  · rintro (hquote | rfl)
    · exact (stages_append_blanks hquote h).symm
    · rw [List.append_nil]

/-- The blanks before a line never count, and those after it are read where the rest ends. -/
theorem stages_substitute_eq (lookup : Text → Text) (line : Text) :
    stages (substitute lookup line) =
      stages (substitute lookup line.trim ++ line.blanksAfter) := by
  simp only [stages]
  rw [substitute_trim, scan_blanks_append fun c => Text.isBlank_of_mem_blanksBefore]

end Scan

/-! ## Statements -/

theorem Command.name_ofWords (name : Text) (args : List Text) :
    (Command.ofWords name args).name = name := by
  unfold Command.ofWords
  split
  · next b h => exact (Builtin.ofName?_eq_some_iff.mp h).symm
  · rfl

namespace Statement

/-- The stages that make a statement. -/
def sourceStages : Option Statement → List (List Text)
  | none => []
  | some (.assignment name value) => [[name ++ '=' :: value]]
  | some (.pipeline p) => p.toList.map fun c => c.name :: c.args

/-- A statement is made by its stages only. -/
theorem sourceStages_ofStages {groups : List (List Text)} (h : ∀ words ∈ groups, words ≠ []) :
    sourceStages (ofStages groups) = groups := by
  rcases ofStages_cases groups with rfl | ⟨name, value, hname, rfl⟩ | ⟨p, hp, hlist⟩
  · rfl
  · rw [ofStages_assignment hname]
    rfl
  · rw [hp, sourceStages, hlist, List.map_map]
    refine (List.map_congr_left fun words hwords => ?_).trans (List.map_id groups)
    obtain ⟨name, args, rfl⟩ := List.exists_cons_of_ne_nil (h words hwords)
    rw [Function.comp_apply, Command.ofStage, Command.name_ofWords, Command.args_ofWords]
    rfl

/-- Lines that say the same have the same stages. -/
theorem ofLine_eq_ofLine_iff {lookup lookup' : Text → Text} {a b : Text} :
    ofLine lookup a = ofLine lookup' b ↔
      stages (substitute lookup a) = stages (substitute lookup' b) := by
  constructor
  · intro h
    have hstages := congrArg sourceStages h
    rwa [ofLine, ofLine, sourceStages_ofStages fun _ => ne_nil_of_mem_stages,
      sourceStages_ofStages fun _ => ne_nil_of_mem_stages] at hstages
  · intro h
    rw [ofLine, ofLine, h]

end Statement

namespace Session

/-- **A line without its outer blanks** does the same as the line, if its quotes are closed after
substitution or no blank stands after it.  If a quote is open, the two differ in the last word, which
loses the blanks after the line, and in nothing else; so they say the same only if there are none. -/
theorem execute_trim (w : World) (vars : Variables) (line : Text) :
    let trimmed := substitute vars.lookup line.trim
    let typed := substitute vars.lookup line
    ((lastStage trimmed).inQuote = false ∨ line.blanksAfter = [] →
      execute w vars line.trim = execute w vars line) ∧
    ((lastStage trimmed).inQuote = true →
      ∃ before words word, stages trimmed = before ++ [words ++ [word]] ∧
        stages typed = before ++ [words ++ [word ++ line.blanksAfter]]) ∧
    (Statement.ofLine vars.lookup line.trim = Statement.ofLine vars.lookup line ↔
      (lastStage trimmed).inQuote = false ∨ line.blanksAfter = []) := by
  intro trimmed typed
  have hafter : ∀ c ∈ line.blanksAfter, isBlank c = true := fun c =>
    Text.isBlank_of_mem_blanksAfter
  have htyped : stages typed = stages (trimmed ++ line.blanksAfter) :=
    stages_substitute_eq vars.lookup line
  have hstatement : Statement.ofLine vars.lookup line.trim = Statement.ofLine vars.lookup line ↔
      (lastStage trimmed).inQuote = false ∨ line.blanksAfter = [] :=
    Statement.ofLine_eq_ofLine_iff.trans (htyped ▸ stages_append_blanks_eq_iff hafter)
  refine ⟨fun h => ?_, fun hquote => ?_, hstatement⟩
  · rw [execute, execute, hstatement.mpr h]
  · rw [htyped]
    exact stages_append_blanks_of_inQuote hquote hafter

/-- A quote that comes with a value takes in the blank after the line. -/
theorem execute_trim_quote_in_value :
    let vars := Variables.empty.set ['q'] ['"']
    let line : Text := ['e', 'c', 'h', 'o', ' ', '$', 'q', ' ']
    let trimmed := substitute vars.lookup line.trim
    ((lastStage trimmed).inQuote = true ∧ line.blanksAfter = [' ']) ∧
    (∃ before words word, stages trimmed = before ++ [words ++ [word]] ∧
      stages (substitute vars.lookup line) = before ++ [words ++ [word ++ [' ']]]) ∧
    Statement.ofLine vars.lookup line.trim ≠ Statement.ofLine vars.lookup line := by
  intro vars line trimmed
  have hquote : (lastStage trimmed).inQuote = true := by decide +kernel
  have hblank : line.blanksAfter = [' '] := by decide +kernel
  let w : World := ⟨fun _ => none, fun _ _ _ => .interrupted, ['/']⟩
  obtain ⟨-, hopen, hsame⟩ := execute_trim w vars line
  refine ⟨⟨hquote, hblank⟩, hblank ▸ hopen hquote, fun heq => ?_⟩
  rcases hsame.mp heq with hclosed | hnone
  · exact absurd hclosed (by rw [hquote]; decide)
  · exact absurd hnone (by rw [hblank]; decide)

/-- Scripts do not run every line as it runs when it is typed: a quote that is not closed loses the
blanks after it. -/
theorem not_execute_trim_alike :
    ¬ ∀ (w : World) (vars : Variables) (line : Text), Script.isStatement line.trim = true →
      let script := execute w vars line.trim
      let typed := execute w vars line
      script.outcome = typed.outcome ∧ script.printed = typed.printed ∧
        script.events.filterMap Event.read? = typed.events.filterMap Event.read? ∧
        script.events.filterMap Event.launched? = typed.events.filterMap Event.launched? ∧
        script.vars = typed.vars := by
  intro h
  let w : World := ⟨fun _ => none, fun _ _ _ => .interrupted, ['/']⟩
  let line : Text := ['e', 'c', 'h', 'o', ' ', '"', 'a', ' ']
  obtain ⟨-, hprinted, -⟩ := h w Variables.empty line (by decide +kernel)
  have hscript : (execute w Variables.empty line.trim).printed = ['a', '\n'] := by
    decide +kernel
  have htyped : (execute w Variables.empty line).printed = ['a', ' ', '\n'] := by
    decide +kernel
  rw [hscript, htyped] at hprinted
  cases hprinted

end Session

end TextShell
