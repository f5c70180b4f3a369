import TextShell.Proofs.Classification
import TextShell.Proofs.Line.PieceScan
import TextShell.Variables

/-!
# Values that stay inside their words

Values are put into a line before it is cut into words, so a value could end a word, a stage or a
quoted part.  Those that cannot are the ones that the scanner admits in the state in which it meets
the reference (`SafeFor`): between quotes the values without the closing quote, and outside of them
those of one or more plain characters.

The scan of the line and the scan of the line with safe values are both what the cut of its pieces
becomes when the pieces are written, once with the references as they stand in the line and once
with their values.

## Main Definitions

* `SafeFor` — the values of a line's references stay inside their words
* `MarkedCut` — a cut of the line that keeps all of its references
-/

namespace TextShell

/-! ## How references are written -/

/-- A code point in a table lies in one of its ranges. -/
theorem CodeTable.exists_range_of_containsIn {ranges : List (Nat × Nat)} {c : Nat}
    (h : containsIn ranges c = true) : ∃ r ∈ ranges, r.1 ≤ c ∧ c ≤ r.2 := by
  induction ranges with
  | nil => cases h
  | cons r rest ih =>
      obtain ⟨lo, hi⟩ := r
      unfold containsIn at h
      split at h
      · cases h
      · split at h
        · exact ⟨(lo, hi), List.mem_cons_self, by omega, by assumption⟩
        · obtain ⟨r, hr, hle⟩ := ih h
          exact ⟨r, List.mem_cons_of_mem _ hr, hle⟩

/-- Characters of names are ASCII letters, digits and underscores. -/
theorem toNat_of_isNameChar {c : Char} (h : isNameChar c = true) :
    48 ≤ c.toNat ∧ c.toNat ≤ 122 := by
  simp only [isNameChar, isNameStart, Bool.or_eq_true, beq_iff_eq] at h
  rcases h with (halpha | rfl) | hdigit
  · rcases Bool.or_eq_true_iff.mp halpha with hupper | hlower
    · obtain ⟨hlo, hhi⟩ : 65 ≤ c.toNat ∧ c.toNat ≤ 90 := of_decide_eq_true hupper
      omega
    · have hrange := Bool.and_eq_true_iff.mp hlower
      have hlo : 97 ≤ c.toNat := of_decide_eq_true hrange.1
      have hhi : c.toNat ≤ 122 := of_decide_eq_true hrange.2
      omega
  · decide
  · have hrange := Bool.and_eq_true_iff.mp hdigit
    have hlo : 48 ≤ c.toNat := of_decide_eq_true hrange.1
    have hhi : c.toNat ≤ 57 := of_decide_eq_true hrange.2
    omega

/-- A character of names neither separates nor opens a quote. -/
theorem isPlain_of_isNameChar {c : Char} (h : isNameChar c = true) : isPlain c = true := by
  obtain ⟨hlo, hhi⟩ := toNat_of_isNameChar h
  -- no range of blanks reaches into the characters of names
  have hranges : ∀ r ∈ blankTable.ranges, r.2 < 48 ∨ 122 < r.1 := by decide
  have hblank : isBlank c = false := by
    cases hb : isBlank c with
    | false => rfl
    | true =>
        obtain ⟨r, hr, hrlo, hrhi⟩ := CodeTable.exists_range_of_containsIn hb
        have := hranges r hr
        omega
  refine isPlain_iff.mpr ⟨hblank, ?_, ?_⟩
  · rintro rfl
    exact absurd h (by decide)
  · cases hq : isQuote c with
    | false => rfl
    | true =>
        simp only [isQuote, Bool.or_eq_true, beq_iff_eq] at hq
        rcases hq with rfl | rfl
        · exact absurd h (by decide)
        · exact absurd h (by decide)

namespace Piece

/-- The references of a line have names. -/
theorem isName_of_mem_ofLine {line name : Text} {braced : Bool}
    (h : .reference name braced ∈ ofLine line) : IsName name := by
  fun_induction ofLine line with
  | case1 => cases h
  | case2 cs name' braced' rest hfound ih =>
      rcases List.mem_cons.mp h with heq | h
      · cases heq
        exact (reference?_eq_some_iff.mp hfound).isName
      · exact ih h
  | case3 cs hnone ih =>
      rcases List.mem_cons.mp h with heq | h
      · cases heq
      · exact ih h
  | case4 c cs hc ih =>
      rcases List.mem_cons.mp h with heq | h
      · cases heq
      · exact ih h

/-- A reference is written without separators and quotes. -/
theorem isPlain_of_mem_source {name : Text} (hname : IsName name) {braced : Bool} {c : Char}
    (hc : c ∈ (Piece.reference name braced).source) : isPlain c = true := by
  obtain ⟨u, hu, hchars⟩ := exists_source_eq_cons hname braced
  rw [hu] at hc
  rcases List.mem_cons.mp hc with rfl | hc
  · decide
  · rcases hchars c hc with hchar | rfl | rfl
    · exact isPlain_of_isNameChar hchar
    · decide
    · decide

end Piece

namespace Scan

/-- What a state admits depends on its quote alone. -/
theorem admits_congr {s s' : Scan} (h : s.quote = s'.quote) (t : Text) :
    s.Admits t ↔ s'.Admits t := by
  unfold Admits
  rw [h]

/-- The scanner admits a reference wherever it meets one. -/
theorem admits_source {s : Scan} (hs : s.WellQuoted) {name : Text} (hname : IsName name)
    (braced : Bool) : s.Admits (Piece.reference name braced).source := by
  cases hq : s.quote with
  | none =>
      refine (admits_of_quote_eq_none hq).mpr ⟨?_, fun c hc => Piece.isPlain_of_mem_source hname hc⟩
      obtain ⟨u, hu, -⟩ := exists_source_eq_cons hname braced
      rw [hu]
      exact List.cons_ne_nil _ _
  | some q =>
      refine (admits_of_quote_eq_some hq).mpr fun hmem => ?_
      have hplain := isPlain_iff.mp (Piece.isPlain_of_mem_source hname hmem)
      have hquote := (hs q hq).1
      rw [hplain.2.2] at hquote
      cases hquote

end Scan

/-! ## What is safe -/

/-- **A cut of a line into words that keeps its references**: as they are written in the line, the
words are the words of the line. -/
structure MarkedCut (line : Text) (marked : List (List (List Piece))) : Prop where
  /-- The words hold pieces of the line in the order in which they stand there. -/
  sublist : marked.flatten.flatten.Sublist (Piece.ofLine line)
  /-- Every reference of the line belongs to a word. -/
  references_eq : marked.flatten.flatten.filter Piece.isReference =
    (Piece.ofLine line).filter Piece.isReference
  /-- As they are written in the line, the words are those of the line. -/
  stages_eq : marked.map (List.map (List.flatMap Piece.source)) = stages line

/-- The values of a line's references stay inside their words: where the scanner meets a reference
between quotes its value does not hold the closing quote, and where it meets one outside of quotes
the value is one or more plain characters. -/
def SafeFor (lookup : Text → Text) (line : Text) : Prop :=
  ∀ (before : List Piece) (name : Text) (braced : Bool) (after : List Piece),
    Piece.ofLine line = before ++ .reference name braced :: after →
      (scan (before.flatMap Piece.source)).Admits (lookup name)

/-- The values of the references among some pieces are admitted, read on from a state. -/
def SafeFrom (lookup : Text → Text) (s : Scan) : List Piece → Prop
  | [] => True
  | p :: ps =>
      (p.isReference = true → s.Admits (p.value lookup)) ∧
        SafeFrom lookup (p.source.foldl Scan.step s) ps

instance SafeFrom.instDecidable (lookup : Text → Text) :
    (s : Scan) → (ps : List Piece) → Decidable (SafeFrom lookup s ps)
  | _, [] => inferInstanceAs (Decidable True)
  | s, p :: ps =>
      have := SafeFrom.instDecidable lookup (p.source.foldl Scan.step s) ps
      inferInstanceAs (Decidable (_ ∧ _))

theorem safeFrom_iff {lookup : Text → Text} {s : Scan} {ps : List Piece} :
    SafeFrom lookup s ps ↔
      ∀ (before : List Piece) (name : Text) (braced : Bool) (after : List Piece),
        ps = before ++ .reference name braced :: after →
          ((before.flatMap Piece.source).foldl Scan.step s).Admits (lookup name) := by
  induction ps generalizing s with
  | nil => exact ⟨fun _ before name braced after heq => by simp at heq, fun _ => trivial⟩
  | cons p ps ih =>
      constructor
      · rintro ⟨hhead, htail⟩ before name braced after heq
        cases before with
        | nil =>
            obtain ⟨rfl, -⟩ := List.cons.inj heq
            exact hhead rfl
        | cons p' before =>
            obtain ⟨rfl, hps⟩ := List.cons.inj heq
            rw [List.flatMap_cons, List.foldl_append]
            exact ih.mp htail before name braced after hps
      · intro h
        refine ⟨fun hp => ?_, ih.mpr fun before name braced after heq => ?_⟩
        · cases p with
          | literal c => cases hp
          | reference name braced => exact h [] name braced ps rfl
        · have hnext := h (p :: before) name braced after (by rw [heq]; rfl)
          rwa [List.flatMap_cons, List.foldl_append] at hnext

/-- Whether values are safe for a line can be computed by reading the line once. -/
theorem safeFor_iff {lookup : Text → Text} {line : Text} :
    SafeFor lookup line ↔ SafeFrom lookup {} (Piece.ofLine line) :=
  safeFrom_iff.symm

instance (lookup : Text → Text) (line : Text) : Decidable (SafeFor lookup line) :=
  decidable_of_iff _ safeFor_iff.symm

/-! ## The two scans -/

/-- Cutting the pieces of a line is scanning the line. -/
theorem scan_flatMap_source {ps : List Piece}
    (hnames : ∀ (name : Text) (braced : Bool), .reference name braced ∈ ps → IsName name) :
    scan (ps.flatMap Piece.source) = (ps.foldl PieceScan.step {}).write Piece.source := by
  refine PieceScan.foldl_step_write (fun _ => rfl) (s := {})
    (Scan.wellQuoted_of_quote_eq_none rfl) fun before p after heq hp hquoted => ?_
  cases p with
  | literal c => cases hp
  | reference name braced =>
      have hmem : .reference name braced ∈ ps := by simp [heq]
      exact Scan.admits_source hquoted (hnames name braced hmem) braced

/-- Cutting the pieces of a line is scanning the line with safe values. -/
theorem scan_substitute {lookup : Text → Text} {line : Text} (h : SafeFor lookup line) :
    scan (substitute lookup line) =
      ((Piece.ofLine line).foldl PieceScan.step {}).write (Piece.value lookup) := by
  refine PieceScan.foldl_step_write (fun _ => rfl) (s := {})
    (Scan.wellQuoted_of_quote_eq_none rfl) fun before p after heq hp _ => ?_
  cases p with
  | literal c => cases hp
  | reference name braced =>
      -- the quotes are those of the raw line, since they come from its literals alone
      have hraw : scan (before.flatMap Piece.source) =
          (before.foldl PieceScan.step {}).write Piece.source :=
        scan_flatMap_source fun name' braced' hmem =>
          Piece.isName_of_mem_ofLine (by rw [heq]; exact List.mem_append_left _ hmem)
      have hsafe := h before name braced after heq
      rw [hraw] at hsafe
      exact (Scan.admits_congr rfl _).mp hsafe

/-- Every line is cut into words that hold its references. -/
theorem markedCut_pieceStages (line : Text) : MarkedCut line (pieceStages line) := by
  obtain ⟨more, hkept, hsub, hrefs⟩ := PieceScan.exists_kept_foldl_step {} (Piece.ofLine line)
  have hflat : (pieceStages line).flatten.flatten = more := by
    rw [pieceStages, List.flatten_filter_not_isEmpty, PieceScan.flatten_groups, hkept]
    rfl
  have hscan : scan line =
      ((Piece.ofLine line).foldl PieceScan.step {}).write Piece.source := by
    rw [← scan_flatMap_source fun _ _ => Piece.isName_of_mem_ofLine, flatMap_source_ofLine]
  refine ⟨hflat ▸ hsub, hflat ▸ hrefs, ?_⟩
  rw [stages, hscan, PieceScan.groups_write, filter_map_map_flatMap]
  rfl

/-- Safe values take the place of the references inside of the words. -/
theorem stages_substitute {lookup : Text → Text} {line : Text} (h : SafeFor lookup line) :
    stages (substitute lookup line) =
      (pieceStages line).map (List.map (List.flatMap (Piece.value lookup))) := by
  rw [stages, scan_substitute h, PieceScan.groups_write, filter_map_map_flatMap]
  rfl

/-- Safe values change the number neither of the stages nor of their words. -/
theorem map_length_stages_substitute {lookup : Text → Text} {line : Text}
    (h : SafeFor lookup line) :
    (stages (substitute lookup line)).map List.length = (stages line).map List.length := by
  rw [stages_substitute h, ← (markedCut_pieceStages line).stages_eq, List.map_map, List.map_map]
  refine List.map_congr_left fun words _ => ?_
  simp only [Function.comp_apply, List.length_map]

/-- Under safe values a statement has the stages of its line, with as many words. -/
theorem wordCounts_ofLine {lookup : Text → Text} {line : Text} (h : SafeFor lookup line) :
    Statement.wordCounts (Statement.ofLine lookup line) = (stages line).map List.length := by
  rw [Statement.ofLine, Statement.wordCounts_ofStages fun _ => ne_nil_of_mem_stages,
    map_length_stages_substitute h]

/-- **Safe values inject nothing.**  The cut of a line into words keeps all of its references and
has exactly the words of the line, and with safe values the words are those of the cut with the
values in the place of the references.  So stages and words are as many as in the line, and any two
stores that are safe for it make statements with as many words in every stage. -/
theorem stages_substitute_of_safeFor {vars : Variables} {line : Text}
    (h : SafeFor vars.lookup line) :
    MarkedCut line (pieceStages line) ∧
      stages (substitute vars.lookup line) =
        (pieceStages line).map (List.map (List.flatMap (Piece.value vars.lookup))) ∧
      (stages (substitute vars.lookup line)).map List.length = (stages line).map List.length ∧
      ∀ vars' : Variables, SafeFor vars'.lookup line →
        Statement.wordCounts (Statement.ofLine vars.lookup line) =
          Statement.wordCounts (Statement.ofLine vars'.lookup line) := by
  refine ⟨markedCut_pieceStages line, stages_substitute h, map_length_stages_substitute h,
    fun vars' h' => ?_⟩
  rw [wordCounts_ofLine h, wordCounts_ofLine h']

/-- A value with a blank, a bar and a single quote between double quotes, and a plain value next to
it. -/
theorem stages_substitute_of_safeFor_quoted_bare :
    let vars := Variables.ofList [(['a'], ['x', ' ', '|', '\'']), (['b'], ['z'])]
    let vars' := Variables.ofList [(['b'], ['n', '=', '$'])]
    let line : Text := ['"', '$', 'a', '"', '$', 'b']
    (SafeFor vars.lookup line ∧ SafeFor vars'.lookup line) ∧
      pieceStages line = [[[.reference ['a'] false, .reference ['b'] false]]] ∧
      stages (substitute vars.lookup line) = [[['x', ' ', '|', '\'', 'z']]] ∧
      Statement.wordCounts (Statement.ofLine vars.lookup line) =
        Statement.wordCounts (Statement.ofLine vars'.lookup line) := by
  intro vars vars' line
  have hpieces : Piece.ofLine line =
      [.literal '"', .reference ['a'] false, .literal '"', .reference ['b'] false] := by
    have ha : ReferenceAt ['a'] false ['"', '$', 'b'] ['$', 'a', '"', '$', 'b'] :=
      ⟨by decide, rfl, fun _ => endsName_cons.mpr (by decide)⟩
    have hb : ReferenceAt ['b'] false [] ['$', 'b'] := ⟨by decide, rfl, fun _ => endsName_nil⟩
    have hquote : '"' ≠ '$' := by decide
    show Piece.ofLine ('"' :: ['$', 'a', '"', '$', 'b']) = _
    rw [Piece.ofLine_cons_of_ne hquote, Piece.ofLine_of_referenceAt ha,
      Piece.ofLine_cons_of_ne hquote, Piece.ofLine_of_referenceAt hb, Piece.ofLine]
  have hvars : SafeFor vars.lookup line := by
    rw [safeFor_iff, hpieces]
    decide
  have hvars' : SafeFor vars'.lookup line := by
    rw [safeFor_iff, hpieces]
    decide
  have hmain := stages_substitute_of_safeFor hvars
  have hcut : pieceStages line = [[[.reference ['a'] false, .reference ['b'] false]]] := by
    rw [pieceStages, hpieces]
    rfl
  refine ⟨⟨hvars, hvars'⟩, hcut, ?_, hmain.2.2.2 vars' hvars'⟩
  rw [hmain.2.1, hcut]
  rfl

end TextShell
