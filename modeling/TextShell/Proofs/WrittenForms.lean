import TextShell.Grep.Options
import TextShell.Proofs.Text.Quoted
import TextShell.Run

/-!
# Written forms are faithful

Statements, commands and what the arguments of `grep` say are the same exactly if they are written in
the same way, so an entry of the log tells which statement was parsed and which command is run.

The forms are put together from quoted texts, and the lemmas follow how: a command ends by itself
because its lists do, and a pipeline because its commands do and none begins with a bracket.  The
words may hold everything that separates or closes.

## Main Definitions

* `Command.hashKey` — what the hash of a command is computed from
* `GrepOptions.shownResult` — the written form of what the arguments of `grep` say
-/

namespace TextShell

/-! ## Commands -/

namespace Command

/-- The built-in command, none for a program. -/
def builtin? : Command → Option Builtin
  | .builtin b _ => some b
  | .external _ _ => none

/-- The program, none for a built-in command. -/
def program? : Command → Option Text
  | .builtin _ _ => none
  | .external program _ => some program

/-- The kind of a command in written forms. -/
def kindLabel : Option Builtin → Text
  | none => "External"
  | some b => b.label

/-- What the hash of a command is computed from: the kind, the program, if there is one, and the
arguments. -/
def hashKey (c : Command) : Text × Option Text × List Text :=
  (c.label, c.program?, c.args)

/-- The kind that a label stands for. -/
def kindOf? (label : Text) : Option (Option Builtin) :=
  (none :: Builtin.all.map some).find? fun k => kindLabel k == label

theorem kindOf?_kindLabel (k : Option Builtin) : kindOf? (kindLabel k) = some k := by
  cases k with
  | none => decide
  | some b => cases b <;> decide

theorem kindLabel_inj (k k' : Option Builtin) (h : kindLabel k = kindLabel k') : k = k' := by
  have hk := kindOf?_kindLabel k
  rw [h, kindOf?_kindLabel k'] at hk
  exact (Option.some.inj hk).symm

theorem selfDelimiting_kindLabel : SelfDelimiting fun k => kindLabel k ++ ['('] := by
  refine .of_not_mem (fun k => ?_) kindLabel_inj
  cases k with
  | none => decide
  | some b => cases b <;> decide

/-- The written form after the opening bracket. -/
def shownWords : Command → Text
  | .builtin _ args => Text.quotedList args ++ [')']
  | .external program args => program.quoted ++ [',', ' '] ++ (Text.quotedList args ++ [')'])

theorem shown_eq (c : Command) : c.shown = kindLabel c.builtin? ++ ['('] ++ c.shownWords := by
  cases c with
  | builtin b args =>
      show b.label ++ "(" ++ Text.quotedList args ++ ")" =
        b.label ++ ['('] ++ (Text.quotedList args ++ [')'])
      rw [List.append_assoc]
      rfl
  | external program args =>
      have hlead : ("External(" : Text) = "External" ++ ['('] := rfl
      show "External(" ++ program.quoted ++ ", " ++ Text.quotedList args ++ ")" =
        "External" ++ ['('] ++ (program.quoted ++ [',', ' '] ++ (Text.quotedList args ++ [')']))
      simp only [hlead, List.append_assoc]
      rfl

/-- **Commands end by themselves.** -/
theorem selfDelimiting_shown : SelfDelimiting shown := by
  have hargs : SelfDelimiting fun args => Text.quotedList args ++ [')'] :=
    Text.selfDelimiting_quotedList.close [')']
  have hwords : SelfDelimiting fun p : Text × List Text =>
      p.1.quoted ++ [',', ' '] ++ (Text.quotedList p.2 ++ [')']) :=
    (Text.selfDelimiting_quoted.close [',', ' ']).pair hargs
  intro c d r r' h
  rw [shown_eq, shown_eq, List.append_assoc _ _ r, List.append_assoc _ _ r'] at h
  -- no label holds a bracket, so the kinds are the same, and the rest is of the same form
  obtain ⟨hkind, hrest⟩ := selfDelimiting_kindLabel h
  cases c with
  | builtin b args =>
      cases d with
      | builtin b' args' =>
          obtain rfl : b = b' := Option.some.inj hkind
          obtain ⟨rfl, hr⟩ := hargs hrest
          exact ⟨rfl, hr⟩
      | external program args' => cases hkind
  | external program args =>
      cases d with
      | builtin b args' => cases hkind
      | external program' args' =>
          obtain ⟨hpair, hr⟩ := hwords (a := (program, args)) (b := (program', args')) hrest
          obtain ⟨rfl, rfl⟩ := Prod.mk.inj hpair
          exact ⟨rfl, hr⟩

/-- Every command begins with the label of its kind. -/
theorem neverBegins_shown : NeverBegins shown ')' := by
  intro c
  cases c with
  | builtin b args => cases b <;> exact ⟨_, _, rfl, by decide⟩
  | external program args => exact ⟨_, _, rfl, by decide⟩

/-- The hash is computed from all of a command. -/
theorem hashKey_inj {c d : Command} (h : c.hashKey = d.hashKey) : c = d := by
  obtain ⟨hlabel, hprogram, hargs⟩ : c.label = d.label ∧ c.program? = d.program? ∧
      c.args = d.args := by simpa [hashKey] using h
  cases c with
  | builtin b args =>
      cases d with
      | builtin b' args' =>
          obtain rfl : b = b' := Option.some.inj (kindLabel_inj (some b) (some b') hlabel)
          obtain rfl : args = args' := hargs
          rfl
      | external program args' => cases hprogram
  | external program args =>
      cases d with
      | builtin b args' => cases hprogram
      | external program' args' =>
          obtain rfl : program = program' := Option.some.inj hprogram
          obtain rfl : args = args' := hargs
          rfl

end Command

/-! ## Statements -/

/-- A pipeline is known from its commands. -/
theorem Pipeline.toList_inj {p q : Pipeline} (h : p.toList = q.toList) : p = q := by
  obtain ⟨c, cs⟩ := p
  obtain ⟨d, ds⟩ := q
  obtain ⟨rfl, rfl⟩ := List.cons.inj h
  rfl

theorem Pipeline.shown_eq (p : Pipeline) :
    p.shown =
      "Pipeline(" ++ (Text.joinWith [' ', '|', ' '] (p.toList.map Command.shown) ++ [')']) :=
  List.append_assoc _ _ _

/-- **Pipelines end by themselves.** -/
theorem Pipeline.selfDelimiting_shown : SelfDelimiting shown := by
  have hlist := (Command.selfDelimiting_shown.joinWith (s := ' ') (e := ')') (by decide)
    Command.neverBegins_shown ['|', ' '] []).prepend "Pipeline("
  intro p q r r' h
  rw [shown_eq, shown_eq] at h
  obtain ⟨hcommands, hr⟩ := hlist h
  exact ⟨toList_inj hcommands, hr⟩

theorem Statement.shown_assignment (name value : Text) :
    shown (.assignment name value) =
      "Assignment(" ++ name.quoted ++ [',', ' '] ++ (value.quoted ++ [')']) :=
  List.append_assoc _ _ _

/-- **Statements end by themselves.** -/
theorem Statement.selfDelimiting_shown : SelfDelimiting shown := by
  have hassignment : SelfDelimiting fun p : Text × Text =>
      "Assignment(" ++ p.1.quoted ++ [',', ' '] ++ (p.2.quoted ++ [')']) :=
    ((Text.selfDelimiting_quoted.prepend "Assignment(").close [',', ' ']).pair
      (Text.selfDelimiting_quoted.close [')'])
  intro s t r r' h
  cases s with
  | assignment name value =>
      cases t with
      | assignment name' value' =>
          rw [shown_assignment, shown_assignment] at h
          obtain ⟨hpair, hr⟩ := hassignment (a := (name, value)) (b := (name', value')) h
          obtain ⟨rfl, rfl⟩ := Prod.mk.inj hpair
          exact ⟨rfl, hr⟩
      | pipeline q => exact absurd (List.cons.inj h).1 (by decide)
  | pipeline p =>
      cases t with
      | assignment name value => exact absurd (List.cons.inj h).1 (by decide)
      | pipeline q =>
          obtain ⟨rfl, hr⟩ := Pipeline.selfDelimiting_shown h
          exact ⟨rfl, hr⟩

/-! ## The arguments of `grep` -/

theorem selfDelimiting_truth : SelfDelimiting truth := by
  intro a b r r' h
  cases a with
  | false =>
      cases b with
      | false => exact ⟨rfl, List.append_cancel_left h⟩
      | true => exact absurd (List.cons.inj h).1 (by decide)
  | true =>
      cases b with
      | false => exact absurd (List.cons.inj h).1 (by decide)
      | true => exact ⟨rfl, List.append_cancel_left h⟩

theorem Text.ofNat_inj (m n : Nat) (h : ofNat m = ofNat n) : m = n := by
  have hvalue := congrArg (fun t : Text => Nat.ofDigitChars 10 t 0) h
  simpa [ofNat] using hvalue

/-- A number ends where something else than a digit stands. -/
theorem Text.selfDelimiting_ofNat : SelfDelimiting fun n => ofNat n ++ [')'] := by
  refine .of_not_mem (fun n hmem => ?_) ofNat_inj
  have hdigit := Nat.isDigit_of_mem_toDigits (by decide) (by decide) hmem
  revert hdigit
  decide

theorem GrepOptions.shown_eq (o : GrepOptions) :
    o.shown = "GrepOptions(pattern=" ++ o.pattern.quoted ++ ", files=" ++ Text.quotedList o.files ++
      ", ignore_case=" ++ truth o.ignoreCase ++ ", whole_word=" ++ truth o.wholeWord ++
      ", after_context=" ++ (Text.ofNat o.after ++ [')']) :=
  List.append_assoc _ _ _

/-- **Options end by themselves.** -/
theorem GrepOptions.selfDelimiting_shown : SelfDelimiting shown := by
  have hpattern := (Text.selfDelimiting_quoted.prepend "GrepOptions(pattern=").close ", files="
  have hfiles := (hpattern.pair Text.selfDelimiting_quotedList).close ", ignore_case="
  have hcase := (hfiles.pair selfDelimiting_truth).close ", whole_word="
  have hword := (hcase.pair selfDelimiting_truth).close ", after_context="
  have hafter := hword.pair Text.selfDelimiting_ofNat
  intro o o' r r' h
  rw [shown_eq, shown_eq] at h
  obtain ⟨hall, hr⟩ := hafter
    (a := ((((o.pattern, o.files), o.ignoreCase), o.wholeWord), o.after))
    (b := ((((o'.pattern, o'.files), o'.ignoreCase), o'.wholeWord), o'.after)) h
  obtain ⟨pattern, files, ignoreCase, wholeWord, after⟩ := o
  obtain ⟨pattern', files', ignoreCase', wholeWord', after'⟩ := o'
  simp only [Prod.mk.injEq] at hall
  obtain ⟨⟨⟨⟨rfl, rfl⟩, rfl⟩, rfl⟩, rfl⟩ := hall
  exact ⟨rfl, hr⟩

namespace GrepUsageError

/-- The mistake of some kind about a text. -/
def ofKind? (kind detail : Text) : Option GrepUsageError :=
  [unknownFlag detail, invalidNumber detail, negativeCount detail, missingArgument detail,
    missingPattern].find? fun e => e.kind == kind

theorem ofKind?_kind (e : GrepUsageError) : ofKind? e.kind e.detail = some e := by
  cases e <;> rfl

theorem not_mem_kind (e : GrepUsageError) : ',' ∉ e.kind := by
  cases e <;> exact of_decide_eq_true rfl

theorem shown_append (e : GrepUsageError) (r : Text) :
    e.shown ++ r = "GrepUsageError(" ++ (e.kind ++ ',' :: ' ' :: (e.detail.quoted ++ ')' :: r)) := by
  show "GrepUsageError(" ++ e.kind ++ ", " ++ e.detail.quoted ++ ")" ++ r = _
  simp only [List.append_assoc]
  rfl

/-- **Mistakes end by themselves.** -/
theorem selfDelimiting_shown : SelfDelimiting shown := by
  intro e e' r r' h
  rw [shown_append, shown_append] at h
  obtain ⟨hkind, hrest⟩ := Grammar.append_cons_cancel e.not_mem_kind e'.not_mem_kind
    (List.append_cancel_left h)
  obtain ⟨hdetail, hr⟩ := Text.selfDelimiting_quoted (List.cons.inj hrest).2
  have he := e.ofKind?_kind
  rw [hkind, hdetail, ofKind?_kind] at he
  exact ⟨(Option.some.inj he).symm, (List.cons.inj hr).2⟩

end GrepUsageError

/-- The written form of what the arguments of `grep` say, options or a mistake. -/
def GrepOptions.shownResult : Except GrepUsageError GrepOptions → Text
  | .ok o => o.shown
  | .error e => e.shown

theorem GrepOptions.shownResult_inj {x y : Except GrepUsageError GrepOptions}
    (h : shownResult x = shownResult y) : x = y := by
  cases x with
  | ok o =>
      cases y with
      | ok o' => exact congrArg _ (selfDelimiting_shown.eq_of_eq h)
      | error e =>
          -- the names of the two classes differ in the fifth character
          have hfifth : some 'O' = some 'U' := congrArg (fun t : Text => t[4]?) h
          cases hfifth
  | error e =>
      cases y with
      | ok o =>
          have hfifth : some 'U' = some 'O' := congrArg (fun t : Text => t[4]?) h
          cases hfifth
      | error e' => exact congrArg _ (GrepUsageError.selfDelimiting_shown.eq_of_eq h)

/-! ## Equality -/

/-- **Written forms are faithful.**  Two statements, two commands or two results of reading the
arguments of `grep` are the same exactly if they are written in the same way, whatever their texts
hold.  So the log says exactly which statement was parsed and which command is run.  Commands are the
same exactly if their hashes are computed from the same data. -/
theorem written_forms_faithful :
    (∀ s t : Statement, ((s == t) = true ↔ s.shown = t.shown) ∧
      ((Record.parsed s).message = (Record.parsed t).message ↔ s = t)) ∧
    (∀ c d : Command, ((c == d) = true ↔ c.shown = d.shown) ∧
      ((c == d) = true ↔ c.hashKey = d.hashKey) ∧
      ((Record.running c).message = (Record.running d).message ↔ c = d)) ∧
    (∀ e e' : GrepUsageError, (e == e') = true ↔ e.shown = e'.shown) ∧
    (∀ o o' : GrepOptions, (o == o') = true ↔ o.shown = o'.shown) ∧
    ∀ x y : Except GrepUsageError GrepOptions,
      x = y ↔ GrepOptions.shownResult x = GrepOptions.shownResult y := by
  refine ⟨fun s t => ⟨?_, ?_⟩, fun c d => ⟨?_, ?_, ?_⟩, fun e e' => ?_, fun o o' => ?_, fun x y =>
    ⟨congrArg _, GrepOptions.shownResult_inj⟩⟩
  · rw [beq_iff_eq]
    exact ⟨congrArg _, Statement.selfDelimiting_shown.eq_of_eq⟩
  · refine ⟨fun h => Statement.selfDelimiting_shown.eq_of_eq (List.append_cancel_left h), ?_⟩
    rintro rfl
    rfl
  · rw [beq_iff_eq]
    exact ⟨congrArg _, Command.selfDelimiting_shown.eq_of_eq⟩
  · rw [beq_iff_eq]
    exact ⟨congrArg _, Command.hashKey_inj⟩
  · refine ⟨fun h => Command.selfDelimiting_shown.eq_of_eq (List.append_cancel_left h), ?_⟩
    rintro rfl
    rfl
  · rw [beq_iff_eq]
    exact ⟨congrArg _, GrepUsageError.selfDelimiting_shown.eq_of_eq⟩
  · rw [beq_iff_eq]
    exact ⟨congrArg _, GrepOptions.selfDelimiting_shown.eq_of_eq⟩

end TextShell
