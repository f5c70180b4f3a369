import TextShell.Name

/-!
# References to variables

In a line, `$name` and `${name}` refer to variables. A line is read once from left to right as
references and the characters between them; a bare name is as long as it can be, and a dollar sign
that begins no reference is an ordinary character. Values are put in place of the references and are
not read again.

## Main Definitions

* `Piece` — an ordinary character or a reference
* `Piece.ofLine` — a line as pieces
* `substitute` — the line with values in place of the references
* `references` — the names that a line refers to
-/

namespace TextShell

/-- A part of a line. -/
inductive Piece where
  /-- A character that stands for itself. -/
  | literal (c : Char)
  /-- A reference to a variable, with or without braces around its name. -/
  | reference (name : Text) (braced : Bool)
  deriving DecidableEq, Repr

/-- What may follow a dollar sign to make it a reference: the name, whether it was in braces, and
the rest of the line. -/
def reference? : Text → Option (Text × Bool × Text)
  | '\x7b' :: cs =>
    match splitName cs with
    | ([], _) => none
    | (name, '\x7d' :: rest) => some (name, true, rest)
    | _ => none
  | cs =>
    match splitName cs with
    | ([], _) => none
    | (name, rest) => some (name, false, rest)

/-- What splitting a name off leaves is no longer than the text. -/
theorem length_splitName_snd_le (t : Text) : (splitName t).2.length ≤ t.length := by
  have h := congrArg List.length (splitName_append t)
  rw [List.length_append] at h
  omega

/-- A reference leaves less of the line than it began with. -/
theorem length_lt_of_reference? {t name rest : Text} {braced : Bool}
    (h : reference? t = some (name, braced, rest)) : rest.length < t.length := by
  unfold reference? at h
  split at h
  · next cs =>
    have hle := length_splitName_snd_le cs
    split at h
    · cases h
    · next _ _ heq =>
      rw [heq] at hle
      simp only [Option.some.injEq, Prod.mk.injEq] at h
      obtain ⟨_, _, rfl⟩ := h
      simp only [List.length_cons] at hle ⊢
      omega
    · cases h
  · have happ := congrArg List.length (splitName_append t)
    split at h
    · cases h
    · next _ _ hne heq =>
      rw [heq, List.length_append] at happ
      simp only [Option.some.injEq, Prod.mk.injEq] at h
      obtain ⟨rfl, _, rfl⟩ := h
      have := List.length_pos_iff.mpr hne
      simp only at happ
      omega

namespace Piece

/-- A line as pieces, read once from left to right. -/
def ofLine : Text → List Piece
  | [] => []
  | c :: cs =>
    if c = '$' then
      match _h : reference? cs with
      | some (name, braced, rest) => .reference name braced :: ofLine rest
      | none => .literal c :: ofLine cs
    else .literal c :: ofLine cs
termination_by t => t.length
decreasing_by
  · have := length_lt_of_reference? _h
    simp only [List.length_cons]
    omega
  all_goals simp

/-- How a piece is written in a line. -/
def source : Piece → Text
  | .literal c => [c]
  | .reference name true => ['$', '\x7b'] ++ name ++ ['\x7d']
  | .reference name false => '$' :: name

/-- What a piece becomes when names have values. -/
def value (lookup : Text → Text) : Piece → Text
  | .literal c => [c]
  | .reference name _ => lookup name

/-- The name that a piece refers to. -/
def name? : Piece → Option Text
  | .literal _ => none
  | .reference name _ => some name

end Piece

/-- What makes a reference is the source of the reference, then the rest. -/
theorem source_append_of_reference? {t name rest : Text} {braced : Bool}
    (h : reference? t = some (name, braced, rest)) :
    (Piece.reference name braced).source ++ rest = '$' :: t := by
  unfold reference? at h
  split at h
  · next cs =>
    have happ := splitName_append cs
    split at h
    · cases h
    · next _ _ heq =>
      rw [heq] at happ
      simp only [Option.some.injEq, Prod.mk.injEq] at h
      obtain ⟨rfl, rfl, rfl⟩ := h
      simp [Piece.source, ← happ]
    · cases h
  · have happ := splitName_append t
    split at h
    · cases h
    · next _ _ _ heq =>
      rw [heq] at happ
      simp only [Option.some.injEq, Prod.mk.injEq] at h
      obtain ⟨rfl, rfl, rfl⟩ := h
      simp [Piece.source, ← happ]

/-- The pieces make up the line. -/
theorem flatMap_source_ofLine (line : Text) : (Piece.ofLine line).flatMap Piece.source = line := by
  fun_induction Piece.ofLine line with
  | case1 => rfl
  | case2 cs name braced rest h ih =>
    rw [List.flatMap_cons, ih]
    exact source_append_of_reference? h
  | case3 cs h ih => simp [ih, Piece.source]
  | case4 c cs h ih => simp [ih, Piece.source]

/-- The line with the values of the variables in place of the references. -/
def substitute (lookup : Text → Text) (line : Text) : Text :=
  (Piece.ofLine line).flatMap (Piece.value lookup)

/-- The names that a line refers to, from left to right. -/
def references (line : Text) : List Text :=
  (Piece.ofLine line).filterMap Piece.name?

end TextShell
