import TextShell.Text.Quoted

/-!
# Variables

The variables of a session map names to values. The order is that of the first assignments; a name
that is assigned again keeps its place.

## Main Definitions

* `Variables` — names with values, each name once
* `Variables.get?`, `Variables.lookup` — the value of a name, if any, and with the empty text for none
* `Variables.set` — the variables after an assignment
* `Variables.shown` — the written form
-/

namespace TextShell

/-- The entries after `name` was given `value`. -/
def putEntry (name value : Text) : List (Text × Text) → List (Text × Text)
  | [] => [(name, value)]
  | (n, v) :: rest => if n = name then (n, value) :: rest else (n, v) :: putEntry name value rest

/-- An assignment adds its name at the end unless it is there. -/
theorem map_fst_putEntry (name value : Text) (entries : List (Text × Text)) :
    (putEntry name value entries).map Prod.fst =
      if name ∈ entries.map Prod.fst then entries.map Prod.fst
      else entries.map Prod.fst ++ [name] := by
  induction entries with
  | nil => simp [putEntry]
  | cons e rest ih =>
    obtain ⟨n, v⟩ := e
    by_cases h : n = name
    · simp [putEntry, h]
    · have h' : ¬ name = n := fun e => h e.symm
      by_cases hm : name ∈ rest.map Prod.fst
      · simp only [putEntry, h, if_false, List.map_cons, ih, hm, if_true, List.mem_cons, or_true]
      · simp only [putEntry, h, if_false, List.map_cons, ih, hm, List.mem_cons, h', or_self,
          List.cons_append]

/-- What is found under a name after an assignment. -/
theorem lookup_putEntry (name value n : Text) (entries : List (Text × Text)) :
    (putEntry name value entries).lookup n = if n = name then some value else entries.lookup n := by
  induction entries with
  | nil =>
    by_cases hn : n = name
    · simp [putEntry, hn]
    · have hb : (n == name) = false := by simpa using hn
      simp [putEntry, List.lookup_cons, hn, hb]
  | cons e rest ih =>
    obtain ⟨m, v⟩ := e
    by_cases hm : m = name
    · subst hm
      by_cases hn : n = m
      · simp [putEntry, hn]
      · have hb : (n == m) = false := by simpa using hn
        simp [putEntry, List.lookup_cons, hn, hb]
    · by_cases hn : n = m
      · subst hn
        simp [putEntry, hm]
      · have hb : (n == m) = false := by simpa using hn
        simp [putEntry, hm, List.lookup_cons, hb, ih]

/-- Names with values, in the order of their first assignment. -/
structure Variables where
  /-- Each name with its value. -/
  entries : List (Text × Text)
  /-- A name stands once. -/
  nodup : (entries.map Prod.fst).Nodup

namespace Variables

/-- No variables. -/
def empty : Variables where
  entries := []
  nodup := by simp

instance : Inhabited Variables := ⟨empty⟩

/-- The value of a name, if it was assigned. -/
def get? (vars : Variables) (name : Text) : Option Text :=
  vars.entries.lookup name

/-- The value of a name, where a name that was never assigned counts as empty. -/
def lookup (vars : Variables) (name : Text) : Text :=
  (vars.get? name).getD []

/-- Whether a name was assigned. -/
def contains (vars : Variables) (name : Text) : Bool :=
  (vars.get? name).isSome

/-- How many names were assigned. -/
def size (vars : Variables) : Nat :=
  vars.entries.length

/-- The variables after an assignment. -/
def set (vars : Variables) (name value : Text) : Variables where
  entries := putEntry name value vars.entries
  nodup := by
    rw [map_fst_putEntry]
    split
    · exact vars.nodup
    · next h =>
      rw [List.nodup_append]
      refine ⟨vars.nodup, by simp, ?_⟩
      intro a ha b hb
      rw [List.mem_singleton] at hb
      exact fun e => h (hb ▸ e ▸ ha)

/-- No name has a value at first. -/
@[simp]
theorem get?_empty (name : Text) : empty.get? name = none := rfl

/-- An assignment changes the value of its name and of no other. -/
@[simp]
theorem get?_set (vars : Variables) (name value n : Text) :
    (vars.set name value).get? n = if n = name then some value else vars.get? n :=
  lookup_putEntry name value n vars.entries

/-- The variables that a list of assignments makes, the later one of a name winning. -/
def ofList (entries : List (Text × Text)) : Variables :=
  entries.foldl (fun vars e => vars.set e.1 e.2) empty

/-- The written form: every name with its value, both quoted. -/
def shown (vars : Variables) : Text :=
  "VariableStore(\x7b" ++
    Text.joinWith ", " (vars.entries.map fun e => e.1.quoted ++ ": " ++ e.2.quoted) ++ "\x7d)"

end Variables

end TextShell
