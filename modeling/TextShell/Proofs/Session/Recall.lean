import TextShell.Proofs.Line.Encoding
import TextShell.Proofs.Line.SafeValues
import TextShell.Proofs.Session.Output

/-!
# Values that come back

A value that a line assigns can be written out again as it is.  On its way it is put on a line,
substituted, cut into words, split off its name and stored, and then put into another line by
substitution and cut into words again.

The assignment survives because its line is encoded (`assignmentLine`): whatever variables are set,
its only word is the name, an equals sign and the value.  The line that writes the value
(`echoLine`) has its only reference between quotes, where a value is safe unless it holds the quote
itself.  Substitution does not read values again, so a value may look like a reference.

## Main Definitions

* `assignmentLine` — the line that assigns a value, each of its characters between quotes
* `echoLine` — the line that writes the value of a variable, the reference between quotes
-/

namespace TextShell

/-- The line that assigns a value to a name, with every character between quotes of its own. -/
def assignmentLine (name value : Text) : Text :=
  encodeWord (name ++ '=' :: value)

/-- The line that writes the value of a name, with the reference between quotes. -/
def echoLine (q : Char) (name : Text) (braced : Bool) : Text :=
  (Builtin.echo.name ++ [' ', q]) ++ ((Piece.reference name braced).source ++ [q])

/-! ## The assignment -/

/-- The line is an assignment of the value to the name, whatever variables are set. -/
theorem ofLine_assignmentLine (lookup : Text → Text) {name : Text} (hname : IsName name)
    (value : Text) :
    Statement.ofLine lookup (assignmentLine name value) = some (.assignment name value) := by
  have hline : assignmentLine name value = encodeLine [[name ++ '=' :: value]] := rfl
  rw [Statement.ofLine, hline, substitute_encodeLine, stages_encodeLine (by simp) (by simp),
    Statement.ofStages_assignment hname]

/-! ## The reference between quotes -/

/-- A quote is no part of a name. -/
theorem isNameChar_eq_false_of_isQuote {q : Char} (hq : isQuote q = true) :
    isNameChar q = false := by
  cases hchar : isNameChar q with
  | false => rfl
  | true =>
      have hplain := (isPlain_iff.mp (isPlain_of_isNameChar hchar)).2.2
      rw [hq] at hplain
      cases hplain

/-- The reference is replaced by the value, and the rest of the line stays. -/
theorem substitute_echoLine (lookup : Text → Text) {q : Char} (hq : isQuote q = true) {name : Text}
    (hname : IsName name) (braced : Bool) :
    substitute lookup (echoLine q name braced) =
      Builtin.echo.name ++ ' ' :: q :: (lookup name ++ [q]) := by
  -- the reference has the only dollar sign, and the quote after it ends its name
  have hdollar : q ≠ '$' := by
    rintro rfl
    exact absurd hq (by decide)
  have hbefore : '$' ∉ Builtin.echo.name ++ [' ', q] := by
    rw [List.mem_append, not_or]
    exact ⟨by decide, by simpa using hdollar.symm⟩
  have hends : braced = false → EndsName [q] := fun _ =>
    endsName_cons.mpr (isNameChar_eq_false_of_isQuote hq)
  rw [echoLine, substitute_append_source_append lookup hname hends,
    (Inert.of_not_mem hbefore).substitute_eq, (Inert.singleton hdollar).substitute_eq]
  simp

/-- A value between quotes that it does not hold is one word. -/
theorem stages_echo_quoted {q : Char} (hq : isQuote q = true) {value : Text} (hvalue : q ∉ value) :
    stages (Builtin.echo.name ++ ' ' :: q :: (value ++ [q])) = [[Builtin.echo.name, value]] := by
  -- the scan takes in the name, a blank that ends it, and what is between the quotes
  have hplain : ({} : Scan).Admits Builtin.echo.name := by decide
  have hname : Builtin.echo.name.foldl Scan.step {} =
      (Scan.between [] []).append Builtin.echo.name :=
    Scan.foldl_step_of_admits (Scan.wellQuoted_of_quote_eq_none rfl) hplain
  have hspan : (q :: (value ++ [q])).foldl Scan.step (Scan.between [] [Builtin.echo.name]) =
      (Scan.between [] [Builtin.echo.name]).append value :=
    Scan.foldl_step_span rfl hq hvalue
  have hscan : (scan (Builtin.echo.name ++ ' ' :: q :: (value ++ [q]))).endWord =
      Scan.between [] [value, Builtin.echo.name] := by
    rw [scan, List.foldl_append, hname, List.foldl_cons, Scan.step_of_isBlank rfl (by decide),
      Scan.endWord_append_between, hspan, Scan.endWord_append_between]
  rw [stages, Scan.groups_of_endWord_eq_between hscan]
  rfl

/-- The line writes the value if the value does not hold the quote. -/
theorem ofLine_echoLine {lookup : Text → Text} {q : Char} (hq : isQuote q = true) {name : Text}
    (hname : IsName name) (braced : Bool) (hvalue : q ∉ lookup name) :
    Statement.ofLine lookup (echoLine q name braced) =
      some (.pipeline ⟨.builtin .echo [lookup name], []⟩) := by
  rw [Statement.ofLine, substitute_echoLine lookup hq hname, stages_echo_quoted hq hvalue]
  rfl

namespace Session

/-- The line that writes a value succeeds, prints the value and changes no variable. -/
theorem execute_echoLine (w : World) {vars : Variables} {q : Char} (hq : isQuote q = true)
    {name : Text} (hname : IsName name) (braced : Bool) (hvalue : q ∉ vars.lookup name) :
    (execute w vars (echoLine q name braced)).outcome = .ok .continue ∧
      (execute w vars (echoLine q name braced)).printed = endedOutput (vars.lookup name) ∧
      (execute w vars (echoLine q name braced)).vars = vars := by
  have hline := ofLine_echoLine hq hname braced hvalue
  have hrun : (Pipeline.run w ⟨.builtin .echo [vars.lookup name], []⟩).outcome =
      .ok (vars.lookup name) := rfl
  refine ⟨?_, printed_execute_of_ok ((output_of_pipeline hline).trans hrun), ?_⟩
  · exact (outcome_execute_eq_ok_iff_of_pipeline hline).mpr ⟨⟨_, hrun⟩, rfl⟩
  · rw [vars_execute, hline]
    rfl

/-- **A value that is assigned comes back.**  The assignment succeeds, prints nothing and changes no
other variable, whatever the value holds and whatever variables are set.  The value is then written
as it is by a reference between quotes that it does not hold, with or without braces around the
name; a line feed follows exactly if the value is not empty and does not end in one.  Writing it
changes no variable. -/
theorem execute_echoLine_execute_assignmentLine (w w' : World) (vars : Variables) {name : Text}
    (hname : IsName name) (value : Text) :
    let assigned := execute w vars (assignmentLine name value)
    assigned.outcome = .ok .continue ∧ assigned.printed = [] ∧
      (∀ n, assigned.vars.get? n = if n = name then some value else vars.get? n) ∧
      ∀ (q : Char) (braced : Bool), isQuote q = true → q ∉ value →
        let echoed := execute w' assigned.vars (echoLine q name braced)
        echoed.outcome = .ok .continue ∧
          echoed.printed =
            value ++ (if value ≠ [] ∧ value.getLast? ≠ some '\n' then ['\n'] else []) ∧
          echoed.vars = assigned.vars := by
  intro assigned
  have hassigned := execute_of_assignment (w := w) (ofLine_assignmentLine vars.lookup hname value)
  have hvars : assigned.vars = vars.set name value := congrArg Turn.vars hassigned
  -- the second line depends on the first by this value only
  have hlookup : assigned.vars.lookup name = value := by
    rw [hvars, Variables.lookup, Variables.get?_set, if_pos rfl]
    rfl
  refine ⟨congrArg Turn.outcome hassigned, congrArg Turn.printed hassigned, fun n => ?_,
    fun q braced hq hheld => ?_⟩
  · rw [hvars, Variables.get?_set]
  · have hecho := execute_echoLine w' hq hname braced (hlookup.symm ▸ hheld)
    rwa [hlookup] at hecho

/-- A value that spells a reference to its own name, with a bar, a quote and a blank. -/
theorem execute_echoLine_execute_assignmentLine_own_name :
    let w : World := ⟨fun _ => none, fun _ _ _ => .interrupted, ['/']⟩
    let name : Text := ['n']
    let value : Text := ['$', 'n', '|', '"', ' ']
    let assigned := execute w .empty (assignmentLine name value)
    (IsName name ∧ isQuote '\'' = true ∧ '\'' ∉ value) ∧
      assigned.vars.get? name = some value ∧
      (execute w assigned.vars (echoLine '\'' name true)).printed = value ++ ['\n'] := by
  intro w name value assigned
  have hname : IsName name := by decide
  have hquote : isQuote '\'' = true := by decide
  have hheld : '\'' ∉ value := by decide
  have hmain := execute_echoLine_execute_assignmentLine w w .empty hname value
  refine ⟨⟨hname, hquote, hheld⟩, ?_, ?_⟩
  · exact (hmain.2.2.1 name).trans (if_pos rfl)
  · exact (hmain.2.2.2 '\'' true hquote hheld).2.1

end Session

end TextShell
