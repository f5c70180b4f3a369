import Mathlib.Algebra.GroupWithZero.Nat
import TextShell.Proofs.Pattern.Crossing
import TextShell.Proofs.World

/-!
# Commands over files

`cat`, `grep` and `wc` look at the files that they are given, one after the other.  They differ in
what they do about one that cannot be opened: `cat` and `grep` tell the user and go on with the next
one, `wc` gives up.

The runs are given as a whole, with their effects in order.  For each command there is one lemma
about a path in front of others, by what is found under it, and one about any number of paths that
can be taken up in front of others (`collectFiles_append`, `countFiles_append`), by induction.  With
nothing after these paths it says how a command succeeds, and with a path that cannot be taken up
how it fails.

The arguments and the pattern of `grep` are checked before the first file is opened.

## Main Definitions

* `World.text?`, `World.complaint?` — the text under a path, and the warning if there is none
* `World.visit` — the effects of a command that goes on after a file that cannot be opened
* `Regex.SearchesAll` — the search is refused in no line of a text
* `Counts.sum` — the counts of several texts together
* `countReport` — what is written about files that are counted
-/

namespace TextShell

namespace World

/-- The text under a path, if it can be opened. -/
def text? (w : World) (path : Text) : Option Text :=
  match w.entry path with
  | .content bytes => some (Utf8.decodeLossy bytes)
  | .failure _ => none

/-- What a command tells the user about a path, if it cannot be opened. -/
def complaint? (w : World) (command path : Text) : Option Text :=
  match w.entry path with
  | .content _ => none
  | .failure e => some (command ++ ": " ++ path ++ ": " ++ e.message path)

/-- Opening a path and telling the user if that cannot be done. -/
def visit (w : World) (command path : Text) : List Event :=
  .read path :: (w.complaint? command path).toList.map .warned

end World

/-- The search for a pattern is refused in no line of a text. -/
def Regex.SearchesAll (r : Regex) (text : Text) : Prop :=
  ∀ line ∈ text.pieces '\n', r.misplaces line = false

/-- The counts of several texts together. -/
def Counts.sum (counts : List Counts) : Counts where
  lines := (counts.map Counts.lines).sum
  words := (counts.map Counts.words).sum
  characters := (counts.map Counts.characters).sum

/-- What is written about files with some texts when they are counted: a line for each, in order,
and a total if there are several. -/
def countReport (files : List (Text × Text)) : Text :=
  let counts := files.map fun file => Counts.ofText file.2
  let lines := files.map fun file => titledCounts file.1 (Counts.ofText file.2)
  Text.joinWith ['\n']
    (lines ++ if 1 < files.length then [titledCounts "total" (Counts.sum counts)] else [])

/-! ## One path -/

namespace World

variable {w : World} {command path text : Text} {e : FileError}

theorem Reads.text?_eq (h : w.Reads path text) : w.text? path = some text := by
  obtain ⟨-, bytes, hentry, rfl⟩ := h
  rw [text?, hentry]

theorem Reads.visit_eq (h : w.Reads path text) : w.visit command path = [.read path] := by
  obtain ⟨-, bytes, hentry, -⟩ := h
  rw [visit, complaint?, hentry]
  rfl

theorem Refuses.text?_eq (h : w.Refuses path e) : w.text? path = none := by
  rw [text?, h.2]

theorem Refuses.visit_eq (h : w.Refuses path e) :
    w.visit command path =
      [.read path, .warned (command ++ ": " ++ path ++ ": " ++ e.message path)] := by
  rw [visit, complaint?, h.2]
  rfl

/-- A path that can be looked up has a text or an error. -/
theorem reads_or_refuses (h : holdsNull path = false) :
    (∃ text, w.Reads path text) ∨ ∃ e, w.Refuses path e := by
  rcases w.null_or_reads_or_refuses path with hnull | hfound
  · rw [h] at hnull
    cases hnull
  · exact hfound

/-- Every path is opened once, in order. -/
theorem filterMap_read?_flatMap_visit (w : World) (command : Text) (paths : List Text) :
    (paths.flatMap (w.visit command)).filterMap Event.read? = paths := by
  induction paths with
  | nil => rfl
  | cons path paths ih =>
      rw [List.flatMap_cons, List.filterMap_append, ih, visit]
      cases w.complaint? command path <;> rfl

/-- There is one warning for every path that cannot be opened, in order. -/
theorem filterMap_warned?_flatMap_visit (w : World) (command : Text) (paths : List Text) :
    (paths.flatMap (w.visit command)).filterMap Event.warned? =
      paths.filterMap (w.complaint? command) := by
  induction paths with
  | nil => rfl
  | cons path paths ih =>
      rw [List.flatMap_cons, List.filterMap_append, ih, visit]
      cases hcomplaint : w.complaint? command path with
      | none => rw [List.filterMap_cons_none hcomplaint]; rfl
      | some message => rw [List.filterMap_cons_some hcomplaint]; rfl

end World

/-! ## Files that are put together -/

section Collect

variable {w : World} {command path text : Text} {use : Text → Run Text} {paths : List Text}

/-- A file that is read and used comes before the others. -/
theorem collectFiles_cons_of_reads {out : Text} (h : w.Reads path text)
    (huse : use text = pure out) :
    collectFiles w command use (path :: paths) =
      ⟨w.visit command path ++ (collectFiles w command use paths).events,
        (collectFiles w command use paths).outcome.map (out ++ ·)⟩ := by
  rw [collectFiles, h.readText_eq, h.visit_eq]
  simp only [bind, Run.andThen, huse, pure, Run.done]
  cases (collectFiles w command use paths).outcome <;> simp [Except.map]

/-- A file that cannot be opened is passed over. -/
theorem collectFiles_cons_of_refuses {e : FileError} (h : w.Refuses path e) :
    collectFiles w command use (path :: paths) =
      ⟨w.visit command path ++ (collectFiles w command use paths).events,
        (collectFiles w command use paths).outcome⟩ := by
  rw [collectFiles, h.readText_eq, h.visit_eq]
  rfl

/-- A file that cannot be used is the last one that is opened. -/
theorem collectFiles_cons_of_fails {f : Failure} (h : w.Reads path text)
    (huse : use text = Run.fail f) :
    collectFiles w command use (path :: paths) = ⟨w.visit command path, .error f⟩ := by
  rw [collectFiles, h.readText_eq, h.visit_eq]
  simp only [bind, Run.andThen, huse, Run.fail, List.append_nil]

/-- **Files that can be used come before the others.** -/
theorem collectFiles_append {f : Text → Text} {before : List Text} (command : Text)
    (hnull : ∀ path ∈ before, holdsNull path = false)
    (huse : ∀ path ∈ before, ∀ text, w.Reads path text → use text = pure (f text))
    (paths : List Text) :
    collectFiles w command use (before ++ paths) =
      ⟨before.flatMap (w.visit command) ++ (collectFiles w command use paths).events,
        (collectFiles w command use paths).outcome.map
          ((before.filterMap w.text?).flatMap f ++ ·)⟩ := by
  induction before with
  | nil => exact (id_map _).symm.trans (Run.map_eq id _)
  | cons path before ih =>
      have hbefore := ih (fun p hp => hnull p (List.mem_cons_of_mem _ hp))
        (fun p hp => huse p (List.mem_cons_of_mem _ hp))
      rw [List.cons_append, List.flatMap_cons]
      -- the first path adds what is made of its text, or a warning and nothing else
      rcases World.reads_or_refuses (w := w) (hnull path List.mem_cons_self) with
        ⟨text, htext⟩ | ⟨e, he⟩
      · rw [collectFiles_cons_of_reads htext (huse path List.mem_cons_self text htext), hbefore,
          List.filterMap_cons_some htext.text?_eq]
        cases (collectFiles w command use paths).outcome <;> simp [Except.map]
      · rw [collectFiles_cons_of_refuses he, hbefore, List.filterMap_cons_none he.text?_eq,
          List.append_assoc]

/-- All files are put together if each of them can be used. -/
theorem collectFiles_eq_ok {f : Text → Text} (command : Text)
    (hnull : ∀ path ∈ paths, holdsNull path = false)
    (huse : ∀ path ∈ paths, ∀ text, w.Reads path text → use text = pure (f text)) :
    collectFiles w command use paths =
      ⟨paths.flatMap (w.visit command), .ok ((paths.filterMap w.text?).flatMap f)⟩ := by
  have h := collectFiles_append command hnull huse []
  simpa [collectFiles, pure, Run.done, Except.map] using h

end Collect

/-! ## Files that are counted -/

section Count

variable {w : World} {path text : Text} {paths : List Text}

theorem countFiles_cons_of_reads (h : w.Reads path text) :
    countFiles w (path :: paths) =
      ⟨.read path :: (countFiles w paths).events,
        (countFiles w paths).outcome.map ((path, Counts.ofText text) :: ·)⟩ := by
  rw [countFiles, h.readText_eq]
  simp only [bind, Run.andThen, pure, Run.done]
  cases (countFiles w paths).outcome <;> simp [Except.map]

/-- A file that cannot be opened ends the count. -/
theorem countFiles_cons_of_refuses {e : FileError} (h : w.Refuses path e) :
    countFiles w (path :: paths) =
      ⟨[.read path],
        .error (.shell (.execution ("wc: " ++ path ++ ": " ++ e.message path) none))⟩ := by
  rw [countFiles, h.readText_eq]
  rfl

/-- **Files that can be opened are counted before the others.** -/
theorem countFiles_append {files : List (Text × Text)}
    (h : ∀ file ∈ files, w.Reads file.1 file.2) (paths : List Text) :
    countFiles w (files.map Prod.fst ++ paths) =
      ⟨files.map (fun file => .read file.1) ++ (countFiles w paths).events,
        (countFiles w paths).outcome.map
          (files.map (fun file => (file.1, Counts.ofText file.2)) ++ ·)⟩ := by
  induction files with
  | nil => exact (id_map _).symm.trans (Run.map_eq id _)
  | cons file files ih =>
      have hfiles := ih fun f hf => h f (List.mem_cons_of_mem _ hf)
      rw [List.map_cons, List.cons_append, countFiles_cons_of_reads (h file List.mem_cons_self),
        hfiles]
      cases (countFiles w paths).outcome <;> rfl

/-- Adding up counts from some counts on. -/
theorem foldl_add_eq (rows : List (Text × Counts)) (t : Counts) :
    rows.foldl (fun t (_, c) => t.add c) t = t.add (Counts.sum (rows.map Prod.snd)) := by
  induction rows generalizing t with
  | nil => rfl
  | cons row rows ih =>
      rw [List.foldl_cons, ih]
      simp [Counts.sum, Counts.add, Nat.add_assoc]

/-- One line for each file, and a total if there are several. -/
theorem wcLines_eq (rows : List (Text × Counts)) :
    wcLines rows = rows.map (fun row => titledCounts row.1 row.2) ++
      if 1 < rows.length then [titledCounts "total" (Counts.sum (rows.map Prod.snd))] else [] := by
  have hzero : ∀ t : Counts, Counts.zero.add t = t := by simp [Counts.add, Counts.zero]
  match rows with
  | [] | [_] => rfl
  | first :: second :: rest =>
      have htotal : 1 < (first :: second :: rest).length := by simp
      rw [if_pos htotal, ← hzero (Counts.sum _), ← foldl_add_eq]
      rfl

/-- Either all paths can be opened, or there is a first one that cannot. -/
theorem World.exists_files (w : World) (hnull : ∀ path ∈ paths, holdsNull path = false) :
    ∃ files : List (Text × Text), (∀ file ∈ files, w.Reads file.1 file.2) ∧
      (paths = files.map Prod.fst ∨
        ∃ path after e, paths = files.map Prod.fst ++ path :: after ∧ w.Refuses path e) := by
  induction paths with
  | nil => exact ⟨[], nofun, .inl rfl⟩
  | cons path paths ih =>
      rcases World.reads_or_refuses (w := w) (hnull path List.mem_cons_self) with
        ⟨text, htext⟩ | ⟨e, he⟩
      · obtain ⟨files, hfiles, hpaths⟩ := ih fun p hp => hnull p (List.mem_cons_of_mem _ hp)
        refine ⟨(path, text) :: files, List.forall_mem_cons.mpr ⟨htext, hfiles⟩, ?_⟩
        rcases hpaths with rfl | ⟨stop, after, e, rfl, he⟩
        · exact .inl rfl
        · exact .inr ⟨stop, after, e, rfl, he⟩
      · exact ⟨[], nofun, .inr ⟨path, paths, e, rfl, he⟩⟩

theorem runWc_of_ne_nil (hne : paths ≠ []) (input : Text) :
    runWc w paths input =
      ⟨(countFiles w paths).events,
        (countFiles w paths).outcome.map fun rows => Text.joinWith ['\n'] (wcLines rows)⟩ := by
  have hempty : paths.isEmpty = false := by simpa using hne
  rw [runWc, hempty, ← Run.map_eq]
  rfl

/-- Files that can all be opened are counted. -/
theorem runWc_eq_ok {files : List (Text × Text)} (hne : files ≠ [])
    (h : ∀ file ∈ files, w.Reads file.1 file.2) (input : Text) :
    runWc w (files.map Prod.fst) input =
      ⟨files.map (fun file => .read file.1), .ok (countReport files)⟩ := by
  have hcount : countFiles w (files.map Prod.fst) =
      ⟨files.map (fun file => .read file.1),
        .ok (files.map fun file => (file.1, Counts.ofText file.2))⟩ := by
    have happend := countFiles_append h []
    rw [List.append_nil] at happend
    rw [happend]
    show (⟨_ ++ [], .ok (_ ++ [])⟩ : Run _) = _
    rw [List.append_nil, List.append_nil]
  have hlines : wcLines (files.map fun file => (file.1, Counts.ofText file.2)) =
      files.map (fun file => titledCounts file.1 (Counts.ofText file.2)) ++
        if 1 < files.length then
          [titledCounts "total" (Counts.sum (files.map fun file => Counts.ofText file.2))]
        else [] := by
    rw [wcLines_eq, List.length_map, List.map_map, List.map_map]
    rfl
  have hpaths : files.map Prod.fst ≠ [] := by simpa using hne
  rw [runWc_of_ne_nil hpaths, hcount, countReport, ← hlines]
  rfl

/-- The first file that cannot be opened is named. -/
theorem runWc_eq_error {files : List (Text × Text)} {e : FileError}
    (h : ∀ file ∈ files, w.Reads file.1 file.2) (he : w.Refuses path e) (after : List Text)
    (input : Text) :
    runWc w (files.map Prod.fst ++ path :: after) input =
      ⟨files.map (fun file => .read file.1) ++ [.read path],
        .error (.shell (.execution ("wc: " ++ path ++ ": " ++ e.message path) none))⟩ := by
  rw [runWc_of_ne_nil (by simp), countFiles_append h, countFiles_cons_of_refuses he]
  rfl

end Count

/-! ## Lines of files -/

namespace Regex

variable {r : Regex} {text : Text}

/-- Where no possessive repetition is part of a pattern, no line is refused. -/
theorem searchesAll_of_not_hasPossessive {flags : Flags} {p : Text} (h : compile flags p = .ok r)
    (hr : r.pattern.hasPossessive = false) (text : Text) : r.SearchesAll text :=
  fun line _ => misplaces_eq_false h hr line

end Regex

section Grep

variable {w : World} {r : Regex} {o : GrepOptions} {args : List Text} {text : Text}

theorem selectFrom_of_searchesAll (h : r.SearchesAll text) :
    selectFrom r o text = pure (filterLines r.found o.after text) := by
  have hnone : (text.pieces '\n').any r.misplaces = false := by
    simpa [Regex.SearchesAll] using h
  rw [selectFrom, Regex.select, hnone]
  rfl

theorem selectFrom_of_not_searchesAll (h : ¬ r.SearchesAll text) :
    selectFrom r o text = Run.fail (.pattern .groupSpan) := by
  have hsome : (text.pieces '\n').any r.misplaces = true := by
    simpa [Regex.SearchesAll] using h
  rw [selectFrom, Regex.select, hsome]
  rfl

theorem grepOptions_of_ok (h : GrepOptions.ofArguments args = .ok o) :
    grepOptions args = pure o := by
  rw [grepOptions, h]

theorem exists_grepOptions_eq_fail {e : GrepArgumentError}
    (h : GrepOptions.ofArguments args = .error e) : ∃ f, grepOptions args = Run.fail f := by
  rw [grepOptions, h]
  cases e <;> exact ⟨_, rfl⟩

/-- With arguments and a pattern that are accepted lines are selected. -/
theorem runGrep_of_accepted (hargs : GrepOptions.ofArguments args = .ok o)
    (hregex : o.regex = .ok r) (input : Text) :
    runGrep w args input =
      if o.files.isEmpty then selectFrom r o input
      else collectFiles w "grep" (selectFrom r o) o.files := by
  have hpattern : grepRegex o = pure r := by
    rw [grepRegex, hregex]
  rw [runGrep, grepOptions_of_ok hargs, Run.pure_bind, hpattern, Run.pure_bind]

/-- Arguments that are not accepted are an end before anything is read. -/
theorem exists_runGrep_eq_fail_of_arguments {e : GrepArgumentError}
    (h : GrepOptions.ofArguments args = .error e) :
    ∃ f, ∀ w input, runGrep w args input = Run.fail f := by
  obtain ⟨f, hf⟩ := exists_grepOptions_eq_fail h
  exact ⟨f, fun w input => by rw [runGrep, hf, Run.fail_bind]⟩

/-- So is a pattern that is not accepted. -/
theorem exists_runGrep_eq_fail_of_regex {e : PatternError}
    (hargs : GrepOptions.ofArguments args = .ok o) (hregex : o.regex = .error e) :
    ∃ f, ∀ w input, runGrep w args input = Run.fail f := by
  have hpattern : ∃ f, grepRegex o = Run.fail f := by
    rw [grepRegex, hregex]
    cases e <;> exact ⟨_, rfl⟩
  obtain ⟨f, hf⟩ := hpattern
  exact ⟨f, fun w input => by
    rw [runGrep, grepOptions_of_ok hargs, Run.pure_bind, hf, Run.fail_bind]⟩

/-- Either the search goes through in all files that can be opened, or there is a first one where
it is refused. -/
theorem World.searchesAll_or_exists (w : World) (r : Regex) {paths : List Text}
    (hnull : ∀ path ∈ paths, holdsNull path = false) :
    (∀ path ∈ paths, ∀ text, w.Reads path text → r.SearchesAll text) ∨
      ∃ before path after text, paths = before ++ path :: after ∧
        (∀ p ∈ before, ∀ text, w.Reads p text → r.SearchesAll text) ∧
        w.Reads path text ∧ ¬ r.SearchesAll text := by
  induction paths with
  | nil => exact .inl nofun
  | cons path paths ih =>
      by_cases hpath : ∀ text, w.Reads path text → r.SearchesAll text
      · rcases ih fun p hp => hnull p (List.mem_cons_of_mem _ hp) with
          hpaths | ⟨before, stop, after, text, rfl, hbefore, hstop⟩
        · exact .inl (List.forall_mem_cons.mpr ⟨hpath, hpaths⟩)
        · exact .inr ⟨path :: before, stop, after, text, rfl,
            List.forall_mem_cons.mpr ⟨hpath, hbefore⟩, hstop⟩
      · obtain ⟨text, hrefused⟩ := Classical.not_forall.mp hpath
        obtain ⟨htext, hnot⟩ := Classical.not_imp.mp hrefused
        exact .inr ⟨[], path, paths, text, rfl, nofun, htext, hnot⟩

/-- Lines are selected from files that can be searched. -/
theorem runGrep_eq_ok (hargs : GrepOptions.ofArguments args = .ok o) (hregex : o.regex = .ok r)
    (hfiles : o.files ≠ []) (hnull : ∀ path ∈ o.files, holdsNull path = false)
    (hsearch : ∀ path ∈ o.files, ∀ text, w.Reads path text → r.SearchesAll text) (input : Text) :
    runGrep w args input =
      ⟨o.files.flatMap (w.visit "grep"),
        .ok ((o.files.filterMap w.text?).flatMap (filterLines r.found o.after))⟩ := by
  have hempty : o.files.isEmpty = false := by simpa using hfiles
  rw [runGrep_of_accepted hargs hregex, hempty]
  exact collectFiles_eq_ok "grep" hnull fun path hpath text htext =>
    selectFrom_of_searchesAll (hsearch path hpath text htext)

/-- Nothing is selected if no file can be opened. -/
theorem runGrep_eq_ok_nil (hargs : GrepOptions.ofArguments args = .ok o)
    (hregex : o.regex = .ok r) (hfiles : o.files ≠ [])
    (hrefused : ∀ path ∈ o.files, ∃ e, w.Refuses path e) (input : Text) :
    runGrep w args input = ⟨o.files.flatMap (w.visit "grep"), .ok []⟩ := by
  have hnull : ∀ path ∈ o.files, holdsNull path = false := fun path hpath =>
    (hrefused path hpath).elim fun _ he => he.1
  have htexts : o.files.filterMap w.text? = [] := by
    rw [List.filterMap_eq_nil_iff]
    intro path hpath
    obtain ⟨e, he⟩ := hrefused path hpath
    exact he.text?_eq
  rw [runGrep_eq_ok hargs hregex hfiles hnull _ input, htexts]
  · rfl
  · intro path hpath text htext
    obtain ⟨e, he⟩ := hrefused path hpath
    exact absurd htext he.not_reads

/-- The first file that cannot be searched is the last one that is opened. -/
theorem runGrep_eq_error {path : Text} (hargs : GrepOptions.ofArguments args = .ok o)
    (hregex : o.regex = .ok r) (before after : List Text)
    (hfiles : o.files = before ++ path :: after)
    (hnull : ∀ path ∈ before, holdsNull path = false)
    (hsearch : ∀ path ∈ before, ∀ text, w.Reads path text → r.SearchesAll text)
    (hpath : w.Reads path text) (hnot : ¬ r.SearchesAll text) (input : Text) :
    runGrep w args input =
      ⟨(before ++ [path]).flatMap (w.visit "grep"), .error (.pattern .groupSpan)⟩ := by
  have hempty : o.files.isEmpty = false := by simp [hfiles]
  have hbefore := collectFiles_append "grep" hnull
    (fun p hp text htext => selectFrom_of_searchesAll (o := o) (hsearch p hp text htext))
    (path :: after)
  rw [runGrep_of_accepted hargs hregex, hempty, hfiles]
  refine hbefore.trans ?_
  rw [collectFiles_cons_of_fails hpath (selectFrom_of_not_searchesAll hnot), List.flatMap_append,
    List.flatMap_singleton]
  rfl

end Grep

/-! ## The commands -/

/-- **Files that cannot be opened.**  `cat` and `grep` go on after such a file, and `wc` stops.

Going on means to open every file once, in order, and to warn about each that cannot be opened.
What `cat` writes are the texts of the other files, and what `grep` writes are the lines selected
from each of them, which is nothing if no file can be opened.  With arguments and a pattern that are
accepted `grep` fails only if the search is refused in a file, which takes a possessive repetition
in the pattern, and files after this one are not opened.  If its arguments or its pattern are not
accepted, it fails before the first file is opened.

The first file that `wc` cannot open is the last one that it looks at, and its error names the file.
If there is none, it writes a line about each file, and a total if there are several. -/
theorem Command.run_over_files (w : World) (input : Text) :
    (∀ (command : Text) (paths : List Text),
      (paths.flatMap (w.visit command)).filterMap Event.read? = paths ∧
      (paths.flatMap (w.visit command)).filterMap Event.warned? =
        paths.filterMap (w.complaint? command)) ∧
    (∀ paths : List Text, paths ≠ [] → (∀ path ∈ paths, holdsNull path = false) →
      (Command.builtin .cat paths).run w input =
        ⟨paths.flatMap (w.visit "cat"), .ok (paths.filterMap w.text?).flatten⟩) ∧
    (∀ args o r, GrepOptions.ofArguments args = .ok o → o.regex = .ok r → o.files ≠ [] →
      (∀ path ∈ o.files, holdsNull path = false) →
      ((∀ path ∈ o.files, ∀ text, w.Reads path text → r.SearchesAll text) ∧
        (Command.builtin .grep args).run w input =
          ⟨o.files.flatMap (w.visit "grep"),
            .ok ((o.files.filterMap w.text?).flatMap (filterLines r.found o.after))⟩) ∨
      ∃ before path after text, o.files = before ++ path :: after ∧
        (∀ p ∈ before, ∀ text, w.Reads p text → r.SearchesAll text) ∧
        w.Reads path text ∧ ¬ r.SearchesAll text ∧ r.pattern.hasPossessive = true ∧
        (Command.builtin .grep args).run w input =
          ⟨(before ++ [path]).flatMap (w.visit "grep"), .error (.pattern .groupSpan)⟩) ∧
    (∀ args o r, GrepOptions.ofArguments args = .ok o → o.regex = .ok r → o.files ≠ [] →
      (∀ path ∈ o.files, ∃ e, w.Refuses path e) →
      (Command.builtin .grep args).run w input =
        ⟨o.files.flatMap (w.visit "grep"), .ok []⟩) ∧
    (∀ args, (∃ e, GrepOptions.ofArguments args = .error e) ∨
        (∃ o e, GrepOptions.ofArguments args = .ok o ∧ o.regex = .error e) →
      ∃ f, (Command.builtin .grep args).run w input = ⟨[], .error f⟩) ∧
    (∀ paths : List Text, paths ≠ [] → (∀ path ∈ paths, holdsNull path = false) →
      ∃ files : List (Text × Text), (∀ file ∈ files, w.Reads file.1 file.2) ∧
        (paths = files.map Prod.fst ∧
            (Command.builtin .wc paths).run w input =
              ⟨files.map (fun file => .read file.1), .ok (countReport files)⟩ ∨
          ∃ path after e, paths = files.map Prod.fst ++ path :: after ∧ w.Refuses path e ∧
            (Command.builtin .wc paths).run w input =
              ⟨files.map (fun file => .read file.1) ++ [.read path],
                .error (.shell (.execution ("wc: " ++ path ++ ": " ++ e.message path) none))⟩)) := by
  refine ⟨fun command paths => ?_, fun paths hne hnull => ?_,
    fun args o r hargs hregex hne hnull => ?_,
    fun args o r hargs hregex hne hrefused => runGrep_eq_ok_nil hargs hregex hne hrefused input,
    ?_, fun paths hne hnull => ?_⟩
  · exact ⟨w.filterMap_read?_flatMap_visit command paths,
      w.filterMap_warned?_flatMap_visit command paths⟩
  · have hempty : paths.isEmpty = false := by simpa using hne
    have hcat := collectFiles_eq_ok (w := w) (f := id) "cat" hnull fun _ _ _ _ => rfl
    rw [Command.run, runCat, hempty, ← List.flatMap_id]
    exact hcat
  · rcases w.searchesAll_or_exists r hnull with
      hsearch | ⟨before, path, after, text, hfiles, hsearch, hpath, hnot⟩
    · exact .inl ⟨hsearch, runGrep_eq_ok hargs hregex hne hnull hsearch input⟩
    · have hpossessive : r.pattern.hasPossessive = true := by
        cases hhas : r.pattern.hasPossessive with
        | true => rfl
        | false => exact absurd (Regex.searchesAll_of_not_hasPossessive hregex hhas text) hnot
      have hbefore : ∀ p ∈ before, holdsNull p = false := fun p hp =>
        hnull p (hfiles ▸ List.mem_append_left _ hp)
      exact .inr ⟨before, path, after, text, hfiles, hsearch, hpath, hnot, hpossessive,
        runGrep_eq_error hargs hregex before after hfiles hbefore hsearch hpath hnot input⟩
  · rintro args (⟨e, he⟩ | ⟨o, e, hargs, hregex⟩)
    · obtain ⟨f, hf⟩ := exists_runGrep_eq_fail_of_arguments he
      exact ⟨f, hf w input⟩
    · obtain ⟨f, hf⟩ := exists_runGrep_eq_fail_of_regex hargs hregex
      exact ⟨f, hf w input⟩
  · obtain ⟨files, hreads, rfl | ⟨path, after, e, rfl, he⟩⟩ := w.exists_files hnull
    · have hfiles : files ≠ [] := by
        rintro rfl
        exact hne rfl
      exact ⟨files, hreads, .inl ⟨rfl, runWc_eq_ok hfiles hreads input⟩⟩
    · exact ⟨files, hreads, .inr ⟨path, after, e, rfl, he,
        runWc_eq_error hreads he after input⟩⟩

/-- One file of three cannot be opened, and it stands between two that are the same. -/
theorem Command.run_over_files_one_missing :
    let w : World := ⟨fun path => if path = ['f'] then some (.content [97, 10]) else none,
      fun _ _ _ => .interrupted, ['/']⟩
    let paths : List Text := [['f'], ['g'], ['f']]
    let events (command : Text) : List Event :=
      [.read ['f'], .read ['g'], .warned (command ++ ": g: No such file or directory"),
        .read ['f']]
    (Command.builtin .cat paths).run w [] = ⟨events "cat", .ok ['a', '\n', 'a', '\n']⟩ ∧
    (Command.builtin .grep (['a'] :: paths)).run w [] =
      ⟨events "grep", .ok ['a', '\n', 'a', '\n']⟩ := by
  intro w paths events
  have hne : paths ≠ [] := List.cons_ne_nil _ _
  have hnull : ∀ path ∈ paths, holdsNull path = false := by decide
  have htexts : paths.filterMap w.text? = [['a', '\n'], ['a', '\n']] := by decide +kernel
  obtain ⟨-, hcat, hgrep, -⟩ := Command.run_over_files w []
  constructor
  · rw [hcat paths hne hnull, htexts]
    rfl
  · rcases hgrep (['a'] :: paths) ⟨['a'], paths, false, false, 0⟩
        ⟨{ unicode := true }, .char (.code 97), 1⟩ rfl rfl hne hnull with
      ⟨-, hrun⟩ | ⟨_, _, _, _, _, _, _, _, hpossessive, _⟩
    · rw [hrun, htexts]
      rfl
    · cases hpossessive

/-! ## A search that is refused -/

theorem eq_ok_of_toOption {ε α : Type} {x : Except ε α} {a : α} (h : x.toOption = some a) :
    x = .ok a := by
  cases x with
  | error e => cases h
  | ok b => exact congrArg _ (Option.some.inj h)

/-- A possessive repetition as often as it must be takes the first way each time. -/
theorem Matcher.iterate_possessive (m : Matcher) (looping : Bool) (size n : Nat) (s : Spot)
    (k : Continuation) :
    m.iterate looping size .possessive n (some n) s k =
      match m.firstTimes n s.settled with
      | .matched s' => k s'
      | .failed t => .failed (t.from s.pos) := by
  have hdone : ∀ s', m.possessively size size (some 0) s' = s' := by
    intro s'
    rw [possessively, if_pos rfl]
  simp only [iterate, Option.map_some, Nat.sub_self]
  cases m.firstTimes n s.settled with
  | failed t => rfl
  | matched s' => exact congrArg k (hdone s')

theorem Pattern.run_iterate_possessive {text : Array Char} {c : Surroundings} {p : Pattern}
    (h : p.single? c.flags = none) (n : Nat) (s : Spot) (k : Continuation) :
    run text c (.iterate .possessive n (some n) p) s k =
      match (run text { c.closed with looping := c.looping } p).firstTimes n s.settled with
      | .matched s' => k s'
      | .failed t => .failed (t.from s.pos) := by
  have hloop : (c.looping || Greed.possessive != .possessive) = c.looping := by simp
  rw [run, h, hloop]
  exact Matcher.iterate_possessive _ _ _ _ _ _

/-- The group ends in the first repetition.  The third one begins it again, in vain, and goes on
with the other alternative, so that the group ends before it begins. -/
theorem misplaces_of_begun_in_vain :
    let p : Pattern := .alt (.group 1 (.char (.code 97))) (.char (.code 98))
    let r : Regex := ⟨{ unicode := true }, .iterate .possessive 3 (some 3) p, 3⟩
    r.misplaces ['a', 'b', 'b'] = true := by
  intro p r
  let marks : Marks := { count := 2, places := [(0, 2), (0, 1), (1, 1), (0, 0)] }
  -- no repetition is added to those that must be, so that the match can be evaluated
  have hmatch : r.matchAt? #['a', 'b', 'b'] 0 = some ⟨3, { reach := 3, marks := marks }⟩ := by
    have hbegin : r.mayBegin #['a', 'b', 'b'] 0 = true := by decide +kernel
    rw [Regex.matchAt?, if_pos hbegin, Pattern.run_iterate_possessive rfl]
    decide +kernel
  have hsearch : r.search? ['a', 'b', 'b'] = some ⟨3, { reach := 3, marks := marks }⟩ := by
    rw [Regex.search?, if_pos (by decide)]
    show List.findSome? _ (0 :: [1, 2, 3]) = _
    rw [List.findSome?_cons, hmatch]
  rw [Regex.misplaces, hsearch]
  decide +kernel

/-- Over a file that can be opened `grep` may fail although its arguments and its pattern are
accepted. -/
theorem Command.not_grep_over_files_succeeds :
    ¬∀ (w : World) (input : Text) (args : List Text) (o : GrepOptions) (r : Regex),
      GrepOptions.ofArguments args = .ok o → o.regex = .ok r → o.files ≠ [] →
      (∀ path ∈ o.files, holdsNull path = false) →
      ∃ output, ((Command.builtin .grep args).run w input).outcome = .ok output := by
  intro h
  let w : World := ⟨fun path => if path = ['f'] then some (.content [97, 98, 98]) else none,
    fun _ _ _ => .interrupted, ['/']⟩
  let o : GrepOptions :=
    { pattern := ['(', '?', ':', '(', 'a', ')', '|', 'b', ')', '{', '3', '}', '+'],
      files := [['f']] }
  let p : Pattern := .alt (.group 1 (.char (.code 97))) (.char (.code 98))
  let r : Regex := ⟨{ unicode := true }, .iterate .possessive 3 (some 3) p, 3⟩
  have hargs : GrepOptions.ofArguments [o.pattern, ['f']] = .ok o := rfl
  have hregex : o.regex = .ok r := eq_ok_of_toOption (by decide +kernel)
  have hreads : w.Reads ['f'] ['a', 'b', 'b'] := ⟨rfl, [97, 98, 98], rfl, by decide +kernel⟩
  have hnot : ¬r.SearchesAll ['a', 'b', 'b'] := by
    intro hsearch
    have hline := hsearch ['a', 'b', 'b'] (by decide)
    rw [misplaces_of_begun_in_vain] at hline
    cases hline
  have hrun := runGrep_eq_error hargs hregex [] [] rfl nofun nofun hreads hnot []
  obtain ⟨output, houtput⟩ := h w [] [o.pattern, ['f']] o r hargs hregex (List.cons_ne_nil _ _)
    (by decide)
  rw [Command.run, hrun] at houtput
  cases houtput

end TextShell
