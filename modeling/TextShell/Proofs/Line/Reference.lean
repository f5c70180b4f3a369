import TextShell.Line.Reference

/-!
# Where references stand

`reference?` decides by splitting off a name whether a dollar sign begins a reference.  Here that
decision is put in terms of the text: `ReferenceAt` says that a text begins with a certain
reference, whose name cannot go on if it has no braces, and `reference?_eq_some_iff` that this is
what is found.  `BeginsReference` says that a text begins with a reference at all; maximality plays
no part in it, since a name that is cut short is a name too.

A reference does not reach across a character that can stand neither in a name nor for a brace
(`Piece.ofLine_append_of_seam`), so a line can be taken apart there before its references are
sought.
-/

namespace TextShell

/-! ## Names at the start of a text -/

/-- A character that begins a name can continue one. -/
theorem isNameChar_of_isNameStart {c : Char} (h : isNameStart c = true) : isNameChar c = true := by
  simp [isNameChar, h]

theorem IsName.ne_nil {name : Text} (h : IsName name) : name ≠ [] := by
  rintro rfl
  exact h

/-- A name consists of characters of names. -/
theorem IsName.isNameChar {name : Text} (h : IsName name) {c : Char} (hc : c ∈ name) :
    isNameChar c = true := by
  cases name with
  | nil => cases hc
  | cons d ds =>
      rcases List.mem_cons.mp hc with rfl | hc
      · exact isNameChar_of_isNameStart h.1
      · exact h.2 c hc

/-- A text after which no name goes on. -/
def EndsName (rest : Text) : Prop :=
  ∀ c ∈ rest.head?, isNameChar c = false

theorem endsName_nil : EndsName [] := nofun

theorem endsName_cons {c : Char} {cs : Text} : EndsName (c :: cs) ↔ isNameChar c = false := by
  simp [EndsName]

/-- A name with more characters of names is a name. -/
theorem IsName.append {name more : Text} (h : IsName name)
    (hmore : ∀ c ∈ more, TextShell.isNameChar c = true) : IsName (name ++ more) := by
  cases name with
  | nil => exact absurd rfl h.ne_nil
  | cons c cs =>
      refine ⟨h.1, fun d hd => ?_⟩
      rcases List.mem_append.mp hd with hd | hd
      · exact h.2 d hd
      · exact hmore d hd

theorem endsName_dropWhile (t : Text) : EndsName (t.dropWhile isNameChar) := by
  intro c hc
  have hnot := List.head?_dropWhile_not isNameChar t
  rw [Option.mem_def.mp hc] at hnot
  exact hnot

/-- A name that does not go on is split off as a whole. -/
theorem splitName_append_of_endsName {name rest : Text} (hname : IsName name)
    (hrest : EndsName rest) : splitName (name ++ rest) = (name, rest) := by
  cases name with
  | nil => exact absurd rfl hname.ne_nil
  | cons c cs =>
      have htake : rest.takeWhile isNameChar = [] := by
        cases rest with
        | nil => rfl
        | cons d ds => rw [List.takeWhile_cons, endsName_cons.mp hrest]; rfl
      have hdrop : rest.dropWhile isNameChar = rest := by
        cases rest with
        | nil => rfl
        | cons d ds => rw [List.dropWhile_cons, endsName_cons.mp hrest]; rfl
      rw [List.cons_append, splitName, if_pos hname.1, List.takeWhile_append_of_pos hname.2,
        List.dropWhile_append_of_pos hname.2, htake, hdrop, List.append_nil]

/-- What is split off is a name that does not go on. -/
theorem isName_and_endsName_of_splitName_eq {t name rest : Text} (h : splitName t = (name, rest))
    (hne : name ≠ []) : IsName name ∧ EndsName rest := by
  have hname := isName_of_splitName (t := t) (by rw [h]; exact hne)
  rw [h] at hname
  refine ⟨hname, ?_⟩
  cases t with
  | nil =>
      obtain ⟨rfl, rfl⟩ := Prod.mk.inj h
      exact endsName_nil
  | cons c cs =>
      by_cases hc : isNameStart c = true
      · rw [splitName, if_pos hc] at h
        obtain ⟨-, rfl⟩ := Prod.mk.inj h
        exact endsName_dropWhile cs
      · rw [splitName, if_neg hc] at h
        exact absurd (Prod.mk.inj h).1.symm hne

/-! ## References at the start of a text -/

theorem source_braced_append (name rest : Text) :
    (Piece.reference name true).source ++ rest = '$' :: '\x7b' :: (name ++ '\x7d' :: rest) := by
  simp [Piece.source]

theorem source_bare_append (name rest : Text) :
    (Piece.reference name false).source ++ rest = '$' :: (name ++ rest) := rfl

/-- The text `t` begins with a reference, and `rest` follows it.  A name without braces is as long
as it can be. -/
structure ReferenceAt (name : Text) (braced : Bool) (rest t : Text) : Prop where
  /-- The name is one. -/
  isName : IsName name
  /-- The reference and what follows it make up the text. -/
  source_append : (Piece.reference name braced).source ++ rest = t
  /-- A name without braces does not go on. -/
  endsName : braced = false → EndsName rest

/-- The text begins with a reference. -/
def BeginsReference (t : Text) : Prop :=
  ∃ (name : Text) (braced : Bool) (rest : Text),
    IsName name ∧ (Piece.reference name braced).source ++ rest = t

theorem ReferenceAt.beginsReference {name rest t : Text} {braced : Bool}
    (h : ReferenceAt name braced rest t) : BeginsReference t :=
  ⟨name, braced, rest, h.isName, h.source_append⟩

/-- A reference begins with a dollar sign. -/
theorem BeginsReference.eq_cons {t : Text} (h : BeginsReference t) : ∃ cs, t = '$' :: cs := by
  obtain ⟨name, braced, rest, -, rfl⟩ := h
  cases braced with
  | true => exact ⟨_, rfl⟩
  | false => exact ⟨_, rfl⟩

theorem not_beginsReference_cons {c : Char} {cs : Text} (hc : c ≠ '$') :
    ¬ BeginsReference (c :: cs) := by
  intro h
  obtain ⟨ds, hds⟩ := h.eq_cons
  exact hc (List.cons.inj hds).1

theorem not_isNameStart_openBrace : isNameStart '\x7b' = false := by decide

theorem not_isNameChar_closeBrace : isNameChar '\x7d' = false := by decide

/-- What is found is a reference. -/
theorem referenceAt_of_reference? {t name rest : Text} {braced : Bool}
    (h : reference? t = some (name, braced, rest)) : ReferenceAt name braced rest ('$' :: t) := by
  have hsource := source_append_of_reference? h
  unfold reference? at h
  split at h
  · split at h
    · cases h
    · next hne heq =>
      obtain ⟨rfl, rfl, -⟩ : _ = name ∧ true = braced ∧ _ = rest := by simpa using h
      exact ⟨(isName_and_endsName_of_splitName_eq heq hne).1, hsource, nofun⟩
    · cases h
  · split at h
    · cases h
    · next hne heq =>
      obtain ⟨rfl, rfl, rfl⟩ : _ = name ∧ false = braced ∧ _ = rest := by simpa using h
      have hsplit := isName_and_endsName_of_splitName_eq heq hne
      exact ⟨hsplit.1, hsource, fun _ => hsplit.2⟩

/-- A name in braces is found. -/
theorem reference?_braced {name : Text} (hname : IsName name) (rest : Text) :
    reference? ('\x7b' :: (name ++ '\x7d' :: rest)) = some (name, true, rest) := by
  have hsplit := splitName_append_of_endsName hname
    (endsName_cons.mpr not_isNameChar_closeBrace : EndsName ('\x7d' :: rest))
  cases name with
  | nil => exact absurd rfl hname.ne_nil
  | cons c cs => simp only [reference?, hsplit]

/-- A name without braces is found as far as it goes. -/
theorem reference?_bare {name rest : Text} (hname : IsName name) (hrest : EndsName rest) :
    reference? (name ++ rest) = some (name, false, rest) := by
  have hsplit := splitName_append_of_endsName hname hrest
  cases name with
  | nil => exact absurd rfl hname.ne_nil
  | cons c cs =>
      have hc : c ≠ '\x7b' := by
        rintro rfl
        exact absurd hname.1 (by simp [not_isNameStart_openBrace])
      rw [List.cons_append] at hsplit ⊢
      unfold reference?
      split
      · next heq => exact absurd (List.cons.inj heq).1 hc
      · rw [hsplit]

/-- **The reference that is found after a dollar sign** is the one with which the text begins. -/
theorem reference?_eq_some_iff {t name rest : Text} {braced : Bool} :
    reference? t = some (name, braced, rest) ↔ ReferenceAt name braced rest ('$' :: t) := by
  constructor
  · exact referenceAt_of_reference?
  · rintro ⟨hname, hsource, hends⟩
    cases braced with
    | true =>
        rw [source_braced_append] at hsource
        obtain rfl := (List.cons.inj hsource).2
        exact reference?_braced hname rest
    | false =>
        rw [source_bare_append] at hsource
        obtain rfl := (List.cons.inj hsource).2
        exact reference?_bare hname (hends rfl)

/-- Nothing is found after a dollar sign that begins no reference, and only then. -/
theorem reference?_eq_none_iff {t : Text} : reference? t = none ↔ ¬ BeginsReference ('$' :: t) := by
  constructor
  · rintro h ⟨name, braced, rest, hname, hsource⟩
    cases braced with
    | true =>
        rw [source_braced_append] at hsource
        obtain rfl := (List.cons.inj hsource).2
        rw [reference?_braced hname rest] at h
        cases h
    | false =>
        -- the name may go on in `rest`, so the one that is found may be longer
        rw [source_bare_append] at hsource
        obtain rfl := (List.cons.inj hsource).2
        have hlong : IsName (name ++ rest.takeWhile isNameChar) :=
          hname.append (List.all_eq_true.mp List.all_takeWhile)
        have hfound := reference?_bare hlong (endsName_dropWhile rest)
        rw [List.append_assoc, List.takeWhile_append_dropWhile, h] at hfound
        cases hfound
  · intro h
    cases hr : reference? t with
    | none => rfl
    | some found => exact absurd (referenceAt_of_reference? hr).beginsReference h

/-! ## Reading a line -/

namespace Piece

theorem ofLine_cons_of_ne {c : Char} (hc : c ≠ '$') (cs : Text) :
    ofLine (c :: cs) = .literal c :: ofLine cs := by
  rw [ofLine, if_neg hc]

/-- A character that begins no reference stands for itself. -/
theorem ofLine_cons_of_not_beginsReference {c : Char} {cs : Text}
    (h : ¬ BeginsReference (c :: cs)) : ofLine (c :: cs) = .literal c :: ofLine cs := by
  by_cases hc : c = '$'
  · subst hc
    rw [ofLine, if_pos rfl]
    split
    · next heq => rw [reference?_eq_none_iff.mpr h] at heq; cases heq
    · rfl
  · exact ofLine_cons_of_ne hc cs

/-- A reference is read as a whole. -/
theorem ofLine_of_referenceAt {name rest t : Text} {braced : Bool}
    (h : ReferenceAt name braced rest t) : ofLine t = .reference name braced :: ofLine rest := by
  obtain ⟨cs, rfl⟩ := h.beginsReference.eq_cons
  rw [ofLine, if_pos rfl]
  split
  · next heq =>
    rw [reference?_eq_some_iff.mpr h] at heq
    simp only [Option.some.injEq, Prod.mk.injEq] at heq
    obtain ⟨rfl, rfl, rfl⟩ := heq
    rfl
  · next heq => rw [reference?_eq_some_iff.mpr h] at heq; cases heq

end Piece

/-! ## Seams -/

/-- A text at whose beginning no reference can go on: it begins neither with a character of names
nor with a brace. -/
def IsSeam (t : Text) : Prop :=
  ∀ c ∈ t.head?, isNameChar c = false ∧ c ≠ '\x7b' ∧ c ≠ '\x7d'

theorem IsSeam.endsName_append {t : Text} (h : IsSeam t) {rest : Text} (hrest : EndsName rest) :
    EndsName (rest ++ t) := by
  cases rest with
  | nil => exact fun c hc => (h c hc).1
  | cons c cs => exact endsName_cons.mpr (endsName_cons.mp hrest)

/-- After its dollar sign a reference is written with characters of names and braces. -/
theorem exists_source_eq_cons {name : Text} (hname : IsName name) (braced : Bool) :
    ∃ u : Text, (Piece.reference name braced).source = '$' :: u ∧
      ∀ c ∈ u, isNameChar c = true ∨ c = '\x7b' ∨ c = '\x7d' := by
  cases braced with
  | true =>
      refine ⟨'\x7b' :: (name ++ ['\x7d']), rfl, fun c hc => ?_⟩
      rcases List.mem_cons.mp hc with rfl | hc
      · exact Or.inr (Or.inl rfl)
      · rcases List.mem_append.mp hc with hc | hc
        · exact Or.inl (hname.isNameChar hc)
        · exact Or.inr (Or.inr (List.mem_singleton.mp hc))
  | false => exact ⟨name, rfl, fun c hc => Or.inl (hname.isNameChar hc)⟩

/-- No reference goes on into another one. -/
theorem BeginsReference.isSeam {t : Text} (h : BeginsReference t) : IsSeam t := by
  obtain ⟨cs, rfl⟩ := h.eq_cons
  intro c hc
  obtain rfl : '$' = c := by simpa using hc
  decide

/-- A reference that begins before a seam ends before it. -/
theorem BeginsReference.of_append {cs t : Text} (ht : IsSeam t)
    (h : BeginsReference ('$' :: cs ++ t)) : BeginsReference ('$' :: cs) := by
  obtain ⟨name, braced, rest, hname, hsource⟩ := h
  obtain ⟨u, hu, hmem⟩ := exists_source_eq_cons hname braced
  rw [hu] at hsource
  rcases List.append_eq_append_iff.mp (List.cons.inj hsource).2 with
    ⟨as, rfl, -⟩ | ⟨as, rfl, rfl⟩
  · exact ⟨name, braced, as, hname, by rw [hu]; rfl⟩
  · cases as with
    | nil => exact ⟨name, braced, [], hname, by rw [hu]; simp⟩
    | cons a as =>
        -- the reference would go on with the first character after the seam
        obtain ⟨hchar, hopen, hclose⟩ := ht a rfl
        rcases hmem a (by simp) with ha | ha | ha
        · rw [hchar] at ha
          cases ha
        · exact absurd ha hopen
        · exact absurd ha hclose

/-- **Pieces on the two sides of a seam** are those of the two sides. -/
theorem Piece.ofLine_append_of_seam {t : Text} (ht : IsSeam t) (s : Text) :
    ofLine (s ++ t) = ofLine s ++ ofLine t := by
  fun_induction ofLine s with
  | case1 => rfl
  | case2 cs name braced rest h ih =>
      have hat := reference?_eq_some_iff.mp h
      have hmore : ReferenceAt name braced (rest ++ t) ('$' :: cs ++ t) :=
        ⟨hat.isName, by rw [← List.append_assoc, hat.source_append],
          fun hb => ht.endsName_append (hat.endsName hb)⟩
      rw [ofLine_of_referenceAt hmore, ih, List.cons_append]
  | case3 cs h ih =>
      have hno : ¬ BeginsReference ('$' :: (cs ++ t)) := fun hmore =>
        reference?_eq_none_iff.mp h (BeginsReference.of_append ht hmore)
      rw [List.cons_append, ofLine_cons_of_not_beginsReference hno, ih, List.cons_append]
  | case4 c cs hc ih =>
      rw [List.cons_append, ofLine_cons_of_ne hc, ih, List.cons_append]

section Substitute

variable (lookup : Text → Text)

@[simp] theorem substitute_nil : substitute lookup [] = [] := by
  simp [substitute, Piece.ofLine]

/-- A character that begins no reference is kept. -/
theorem substitute_cons_of_not_beginsReference {c : Char} {cs : Text}
    (h : ¬ BeginsReference (c :: cs)) :
    substitute lookup (c :: cs) = c :: substitute lookup cs := by
  rw [substitute, Piece.ofLine_cons_of_not_beginsReference h, List.flatMap_cons]
  rfl

/-- The two sides of a seam are substituted apart. -/
theorem substitute_append_of_seam {t : Text} (ht : IsSeam t) (s : Text) :
    substitute lookup (s ++ t) = substitute lookup s ++ substitute lookup t := by
  rw [substitute, Piece.ofLine_append_of_seam ht, List.flatMap_append]
  rfl

/-- A reference after any text is replaced by the value of its name. -/
theorem substitute_append_source_append {name rest : Text} {braced : Bool} (hname : IsName name)
    (hends : braced = false → EndsName rest) (before : Text) :
    substitute lookup (before ++ ((Piece.reference name braced).source ++ rest)) =
      substitute lookup before ++ (lookup name ++ substitute lookup rest) := by
  have hat : ReferenceAt name braced rest ((Piece.reference name braced).source ++ rest) :=
    ⟨hname, rfl, hends⟩
  rw [substitute_append_of_seam lookup hat.beginsReference.isSeam]
  simp only [substitute, Piece.ofLine_of_referenceAt hat, List.flatMap_cons, Piece.value]

end Substitute

/-! ## What a line refers to -/

/-- **A line refers to a name**: somewhere in it a reference to the name begins. -/
def RefersTo (line name : Text) : Prop :=
  ∃ before t braced rest, line = before ++ t ∧ ReferenceAt name braced rest t

theorem RefersTo.append_left {line name : Text} (h : RefersTo line name) (before : Text) :
    RefersTo (before ++ line) name := by
  obtain ⟨before', t, braced, rest, rfl, hat⟩ := h
  exact ⟨before ++ before', t, braced, rest, by rw [List.append_assoc], hat⟩

/-- What is read as a reference in a line is one that begins there. -/
theorem refersTo_of_mem_references {line name : Text} (h : name ∈ references line) :
    RefersTo line name := by
  unfold references at h
  fun_induction Piece.ofLine line with
  | case1 => cases h
  | case2 cs n braced rest hfound ih =>
      have hat := reference?_eq_some_iff.mp hfound
      rcases List.mem_cons.mp h with rfl | h
      · exact ⟨[], '$' :: cs, braced, rest, rfl, hat⟩
      · rw [← hat.source_append]
        exact (ih h).append_left _
  | case3 cs _ ih => exact (ih h).append_left ['$']
  | case4 c cs _ ih => exact (ih h).append_left [c]

/-- **The references of a line** are those that begin anywhere in it.  None of them is overlooked
because it begins within another one. -/
theorem mem_references_iff {line name : Text} : name ∈ references line ↔ RefersTo line name := by
  constructor
  · exact refersTo_of_mem_references
  · rintro ⟨before, t, braced, rest, rfl, hat⟩
    rw [references, Piece.ofLine_append_of_seam hat.beginsReference.isSeam,
      Piece.ofLine_of_referenceAt hat, List.filterMap_append]
    exact List.mem_append_right _ List.mem_cons_self

/-- Values of names that a line does not refer to play no part in it. -/
theorem substitute_congr {lookup lookup' : Text → Text} {line : Text}
    (h : ∀ name, RefersTo line name → lookup name = lookup' name) :
    substitute lookup line = substitute lookup' line := by
  have hvalue : ∀ piece ∈ Piece.ofLine line, piece.value lookup = piece.value lookup' := by
    intro piece hpiece
    cases piece with
    | literal c => rfl
    | reference name braced =>
        have hmem : name ∈ references line := List.mem_filterMap.mpr ⟨_, hpiece, rfl⟩
        exact h name (mem_references_iff.mp hmem)
  rw [substitute, substitute, List.flatMap_def, List.flatMap_def, List.map_congr_left hvalue]

end TextShell
