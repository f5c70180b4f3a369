import TextShell.Proofs.Classification
import TextShell.Proofs.Line.Scanning
import TextShell.Variables

/-!
# Writing words on a line

Every list of stages can be written on a line so that it is read back, whatever its words hold and
whatever variables are set: every character stands between quotes of its own, a single quote between
double ones and all others between single ones.

Two passes have to leave the characters alone.  The scanner does because no character is its own
quote.  Substitution, which knows no quotes, does because a dollar sign is followed by a quote and
so begins no reference (`Inert`).

## Main Definitions

* `encodeChar`, `encodeWord`, `encodeStage`, `encodeLine` — what is written
* `Inert` — a text that substitution copies, whatever follows it
-/

namespace TextShell

/-- A character between quotes that it is not. -/
def encodeChar (c : Char) : Text :=
  if c = '\'' then ['"', c, '"'] else ['\'', c, '\'']

/-- A word with its characters between quotes, or a pair of quotes for the empty word. -/
def encodeWord (word : Text) : Text :=
  if word.isEmpty then ['\'', '\''] else word.flatMap encodeChar

/-- The words of a stage, with spaces between them. -/
def encodeStage (words : List Text) : Text :=
  Text.joinWith [' '] (words.map encodeWord)

/-- Stages with bars between them. -/
def encodeLine (stages : List (List Text)) : Text :=
  Text.joinWith ['|'] (stages.map encodeStage)

/-! ## Substitution -/

/-- A text that substitution copies, whatever follows it. -/
def Inert (lookup : Text → Text) (t : Text) : Prop :=
  ∀ rest : Text, substitute lookup (t ++ rest) = t ++ substitute lookup rest

namespace Inert

variable {lookup : Text → Text}

/-- An inert text is its own substitution. -/
theorem substitute_eq {t : Text} (h : Inert lookup t) : substitute lookup t = t := by
  have hcopied := h []
  rwa [List.append_nil, substitute_nil, List.append_nil] at hcopied

theorem nil : Inert lookup [] := fun _ => rfl

theorem append {t u : Text} (ht : Inert lookup t) (hu : Inert lookup u) :
    Inert lookup (t ++ u) := by
  intro rest
  rw [List.append_assoc, ht, hu, List.append_assoc]

theorem flatMap {α : Type} {f : α → Text} (h : ∀ a : α, Inert lookup (f a)) (as : List α) :
    Inert lookup (as.flatMap f) := by
  induction as with
  | nil => exact nil
  | cons a as ih =>
      rw [List.flatMap_cons]
      exact (h a).append ih

theorem joinWith {α : Type} {sep : Text} {f : α → Text} (hsep : Inert lookup sep)
    (h : ∀ a : α, Inert lookup (f a)) (as : List α) :
    Inert lookup (Text.joinWith sep (as.map f)) := by
  induction as with
  | nil => exact nil
  | cons a as ih =>
      cases as with
      | nil => exact h a
      | cons b bs => exact ((h a).append hsep).append ih

/-- A character that is no dollar sign is copied. -/
theorem singleton {c : Char} (hc : c ≠ '$') : Inert lookup [c] := by
  intro rest
  have hno : ¬ BeginsReference (c :: rest) := not_beginsReference_cons hc
  exact substitute_cons_of_not_beginsReference lookup hno

/-- A text without dollar signs is copied. -/
theorem of_not_mem {t : Text} (h : '$' ∉ t) : Inert lookup t := by
  induction t with
  | nil => exact nil
  | cons c cs ih =>
      have hc : c ≠ '$' := fun e => h (e ▸ List.mem_cons_self)
      have hcs : '$' ∉ cs := fun hmem => h (List.mem_cons_of_mem c hmem)
      exact (singleton hc).append (ih hcs)

/-- A dollar sign before a quote is copied, as is all that stands between single quotes. -/
theorem singleQuoted (c : Char) : Inert lookup ['\'', c, '\''] := by
  intro rest
  have hno : ¬ BeginsReference (c :: '\'' :: rest) := by
    by_cases hc : c = '$'
    · have hsplit : splitName ('\'' :: rest) = ([], '\'' :: rest) := by
        rw [splitName, if_neg (by decide)]
      subst hc
      exact reference?_eq_none_iff.mp (by simp [reference?, hsplit])
    · exact not_beginsReference_cons hc
  have hquote : ∀ t : Text, substitute lookup ('\'' :: t) = '\'' :: substitute lookup t :=
    singleton (by decide)
  show substitute lookup ('\'' :: c :: '\'' :: rest) = '\'' :: c :: '\'' :: substitute lookup rest
  rw [hquote, substitute_cons_of_not_beginsReference lookup hno, hquote]

theorem encodeChar (c : Char) : Inert lookup (TextShell.encodeChar c) := by
  unfold TextShell.encodeChar
  split
  · next hc =>
    subst hc
    exact (singleton (by decide)).append ((singleton (by decide)).append (singleton (by decide)))
  · exact singleQuoted c

theorem encodeWord (word : Text) : Inert lookup (TextShell.encodeWord word) := by
  unfold TextShell.encodeWord
  split
  · exact (singleton (by decide)).append (singleton (by decide))
  · exact flatMap encodeChar word

theorem encodeLine (stages : List (List Text)) : Inert lookup (TextShell.encodeLine stages) :=
  joinWith (singleton (by decide)) (joinWith (singleton (by decide)) encodeWord) stages

end Inert

/-! ## Scanning -/

namespace Scan

/-- An encoded character joins the word in progress. -/
theorem foldl_step_encodeChar {s : Scan} (hs : s.quote = none) (c : Char) :
    (encodeChar c).foldl step s = s.append [c] := by
  unfold encodeChar
  split
  · next hc =>
    have hheld : '"' ∉ [c] := by simp [hc]
    exact foldl_step_span hs (by decide) hheld
  · next hc =>
    have hheld : '\'' ∉ [c] := by simpa using Ne.symm hc
    exact foldl_step_span hs (by decide) hheld

/-- Encoded characters join the word in progress one after the other. -/
theorem foldl_step_flatMap_encodeChar {s : Scan} (hs : s.quote = none) (t u : Text) :
    (u.flatMap encodeChar).foldl step (s.append t) = s.append (t ++ u) := by
  induction u generalizing t with
  | nil => simp
  | cons c cs ih =>
      have hchar := foldl_step_encodeChar (s := s.append t) hs c
      rw [List.flatMap_cons, List.foldl_append, hchar, append_append, ih, List.append_assoc]
      rfl

/-- An encoded word is read as the word. -/
theorem foldl_step_encodeWord {s : Scan} (hs : s.quote = none) (word : Text) :
    (encodeWord word).foldl step s = s.append word := by
  cases word with
  | nil =>
      have hheld : '\'' ∉ ([] : Text) := List.not_mem_nil
      exact foldl_step_span hs (by decide) hheld
  | cons c cs =>
      show ((c :: cs).flatMap encodeChar).foldl step s = s.append (c :: cs)
      rw [List.flatMap_cons, List.foldl_append, foldl_step_encodeChar hs,
        foldl_step_flatMap_encodeChar hs]
      rfl

/-- The words of an encoded stage are read one after the other. -/
theorem endWord_foldl_step_encodeStage {words : List Text} (hwords : words ≠ [])
    (finished : List (List Text)) (before : List Text) :
    ((encodeStage words).foldl step (between finished before)).endWord =
      between finished (words.reverse ++ before) := by
  induction words generalizing before with
  | nil => exact absurd rfl hwords
  | cons w ws ih =>
      have hword : (encodeWord w).foldl step (between finished before) =
          (between finished before).append w := foldl_step_encodeWord rfl w
      cases ws with
      | nil =>
          show ((encodeWord w).foldl step (between finished before)).endWord = _
          rw [hword, endWord_append_between]
          rfl
      | cons v vs =>
          show ((encodeWord w ++ [' '] ++ encodeStage (v :: vs)).foldl step
            (between finished before)).endWord = _
          rw [List.foldl_append, List.foldl_append, hword, List.foldl_cons, List.foldl_nil,
            step_of_isBlank rfl (by decide), endWord_append_between, ih (by simp)]
          simp

/-- The stages of an encoded line are read one after the other. -/
theorem groups_foldl_step_encodeLine {stages : List (List Text)} (hstages : stages ≠ [])
    (hwords : ∀ words ∈ stages, words ≠ []) (finished : List (List Text)) :
    ((encodeLine stages).foldl step (between finished [])).groups = finished.reverse ++ stages := by
  induction stages generalizing finished with
  | nil => exact absurd rfl hstages
  | cons words stages ih =>
      have hstage := endWord_foldl_step_encodeStage (hwords words List.mem_cons_self) finished []
      rw [List.append_nil] at hstage
      cases stages with
      | nil =>
          rw [encodeLine, List.map_singleton, Text.joinWith, groups_of_endWord_eq_between hstage,
            List.reverse_reverse]
      | cons words' stages =>
          have hquote : ((encodeStage words).foldl step (between finished [])).quote = none := by
            rw [← endWord_quote, hstage]
            rfl
          show ((encodeStage words ++ ['|'] ++ encodeLine (words' :: stages)).foldl step
            (between finished [])).groups = _
          rw [List.foldl_append, List.foldl_append, List.foldl_cons, List.foldl_nil,
            step_bar hquote, ← endStage_endWord, hstage, endStage_between, List.reverse_reverse,
            ih (by simp) fun w hw => hwords w (List.mem_cons_of_mem _ hw)]
          simp

end Scan

/-- The stages of an encoded line are those that were encoded. -/
theorem stages_encodeLine {groups : List (List Text)} (hgroups : groups ≠ [])
    (hwords : ∀ words ∈ groups, words ≠ []) : stages (encodeLine groups) = groups := by
  have hread : (scan (encodeLine groups)).groups = groups :=
    Scan.groups_foldl_step_encodeLine hgroups hwords []
  rw [stages, hread, List.filter_eq_self]
  intro words hmem
  simpa using hwords words hmem

/-- Substitution leaves an encoded line as it is. -/
theorem substitute_encodeLine (lookup : Text → Text) (groups : List (List Text)) :
    substitute lookup (encodeLine groups) = encodeLine groups :=
  (Inert.encodeLine groups).substitute_eq

/-- **Stages that are encoded on a line arrive unchanged**, whatever variables are set: substitution
leaves the line as it is, its stages are those that were encoded, and the statement is the
assignment that a single word `name=value` makes, and otherwise a pipeline with the command that the
first word of every stage selects for the others. -/
theorem ofLine_encodeLine (vars : Variables) {groups : List (List Text)} (hgroups : groups ≠ [])
    (hwords : ∀ words ∈ groups, words ≠ []) :
    substitute vars.lookup (encodeLine groups) = encodeLine groups ∧
      stages (encodeLine groups) = groups ∧
      (∀ name value : Text, IsName name → groups = [[name ++ '=' :: value]] →
        Statement.ofLine vars.lookup (encodeLine groups) = some (.assignment name value)) ∧
      ((∀ name value : Text, IsName name → groups ≠ [[name ++ '=' :: value]]) →
        ∃ p : Pipeline, Statement.ofLine vars.lookup (encodeLine groups) = some (.pipeline p) ∧
          p.toList = groups.map fun words => Command.ofWords (words.headD []) words.tail) := by
  have hsubst := substitute_encodeLine vars.lookup groups
  have hstages := stages_encodeLine hgroups hwords
  have hline : Statement.ofLine vars.lookup (encodeLine groups) = Statement.ofStages groups := by
    rw [Statement.ofLine, hsubst, hstages]
  rw [hline]
  refine ⟨hsubst, hstages, ?_, fun hno => ?_⟩
  · rintro name value hname rfl
    exact Statement.ofStages_assignment hname value
  · obtain ⟨p, hp, hlist⟩ := Statement.exists_ofStages_eq_pipeline hgroups hno
    exact ⟨p, hp, hlist.trans (List.map_congr_left fun words _ => Command.ofStage_eq words)⟩

/-- A dollar sign, a bar and a quote in the words of two stages. -/
theorem ofLine_encodeLine_dollar_bar_quote :
    let vars := Variables.ofList [(['a'], ['|'])]
    let groups : List (List Text) :=
      [[['e', 'c', 'h', 'o'], ['$', 'a', '|', '\'']], [['b', '='], []]]
    substitute vars.lookup (encodeLine groups) = encodeLine groups ∧
      stages (encodeLine groups) = groups ∧
      ∃ p : Pipeline, Statement.ofLine vars.lookup (encodeLine groups) = some (.pipeline p) ∧
        p.toList = [.builtin .echo [['$', 'a', '|', '\'']], .external ['b', '='] [[]]] := by
  intro vars groups
  have hgroups : groups ≠ [] := by decide
  have hwords : ∀ words ∈ groups, words ≠ [] := by decide
  have hmain := ofLine_encodeLine vars hgroups hwords
  obtain ⟨p, hp, hlist⟩ := hmain.2.2.2 fun name value _ heq => by
    have hlength := congrArg List.length heq
    cases hlength
  exact ⟨hmain.1, hmain.2.1, p, hp, hlist⟩

end TextShell
