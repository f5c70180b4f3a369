import TextShell.Proofs.Line.Reference
import TextShell.Variables

/-!
# Lines as literals and references

A line is literal text with references in between, in one way only: a reference is as long as it can
be, and none begins inside of a literal.  Substitution puts the value of its name in the place of
every reference and copies the literals.

`Factorization.Factors` says this of the line as a whole, by cutting the literals at every place.
The proof goes through the pieces of the line: gathering them into literals
(`Factorization.ofPieces`) gives the one factorization, since reading a character or a reference off
a line takes the same off every factorization of it.
-/

namespace TextShell

/-- A reference and the literal text after it, up to the next reference or the end of the line. -/
structure Occurrence where
  /-- The name that is referred to. -/
  name : Text
  /-- Whether the name is in braces. -/
  braced : Bool
  /-- The literal text after the reference. -/
  after : Text

/-- How an occurrence and the literal text after it are written. -/
def Occurrence.source (o : Occurrence) : Text :=
  (Piece.reference o.name o.braced).source ++ o.after

/-- A line as literals and references. -/
structure Factorization where
  /-- The literal text before the first reference. -/
  lead : Text
  /-- The references, each with the literal text after it. -/
  refs : List Occurrence

/-- In a line that ends with `lit ++ rest`, no reference begins inside of `lit`. -/
def FreeOfReferences (lit rest : Text) : Prop :=
  ∀ u v : Text, u ++ v = lit → v ≠ [] → ¬ BeginsReference (v ++ rest)

namespace Factorization

/-- Every reference has a name, which does not go on if it is without braces, and no reference
begins inside of the literals. -/
def Exact : List Occurrence → Prop
  | [] => True
  | o :: os =>
      IsName o.name ∧
      (o.braced = false → EndsName (o.after ++ os.flatMap Occurrence.source)) ∧
      FreeOfReferences o.after (os.flatMap Occurrence.source) ∧
      Exact os

/-- How a factorization is written. -/
def source (f : Factorization) : Text :=
  f.lead ++ f.refs.flatMap Occurrence.source

/-- **A factorization of a line**: the literals and references make up the line, the references are
as long as they can be, and no reference begins inside of a literal. -/
structure Factors (f : Factorization) (line : Text) : Prop where
  /-- The literals and references make up the line. -/
  source_eq : f.source = line
  /-- No reference begins before the first one. -/
  lead_free : FreeOfReferences f.lead (f.refs.flatMap Occurrence.source)
  /-- The references and the literals after them are what they have to be. -/
  exact : Exact f.refs

/-- The literals, with a value for every name in the place of its references. -/
def expand (value : Text → Text) (f : Factorization) : Text :=
  f.lead ++ f.refs.flatMap fun o => value o.name ++ o.after

/-! ## Taking a line apart from the left -/

theorem freeOfReferences_nil (rest : Text) : FreeOfReferences [] rest := by
  intro u v huv hv
  exact absurd (List.append_eq_nil_iff.mp huv).2 hv

theorem freeOfReferences_cons {c : Char} {lit rest : Text} :
    FreeOfReferences (c :: lit) rest ↔
      ¬ BeginsReference (c :: (lit ++ rest)) ∧ FreeOfReferences lit rest := by
  constructor
  · intro h
    exact ⟨h [] (c :: lit) rfl (by simp), fun u v huv => h (c :: u) v (by rw [← huv]; rfl)⟩
  · rintro ⟨hhead, htail⟩ u v huv hv
    cases u with
    | nil =>
        obtain rfl : v = c :: lit := huv
        exact hhead
    | cons d ds => exact htail ds v (List.cons.inj huv).2 hv

/-- The empty line has the factorization without any text. -/
theorem factors_nil {line : Text} : Factors ⟨[], []⟩ line ↔ line = [] := by
  constructor
  · intro h
    exact h.source_eq.symm
  · rintro rfl
    exact ⟨rfl, freeOfReferences_nil [], trivial⟩

/-- A factorization that begins with a literal character. -/
theorem factors_cons_lead {c : Char} {lead line : Text} {os : List Occurrence} :
    Factors ⟨c :: lead, os⟩ line ↔
      ∃ cs, line = c :: cs ∧ ¬ BeginsReference (c :: cs) ∧ Factors ⟨lead, os⟩ cs := by
  constructor
  · rintro ⟨rfl, hfree, hexact⟩
    obtain ⟨hhead, htail⟩ := freeOfReferences_cons.mp hfree
    exact ⟨_, rfl, hhead, ⟨rfl, htail, hexact⟩⟩
  · rintro ⟨cs, rfl, hhead, ⟨rfl, htail, hexact⟩⟩
    exact ⟨rfl, freeOfReferences_cons.mpr ⟨hhead, htail⟩, hexact⟩

/-- A factorization that begins with a reference. -/
theorem factors_cons_refs {o : Occurrence} {line : Text} {os : List Occurrence} :
    Factors ⟨[], o :: os⟩ line ↔
      ∃ rest, ReferenceAt o.name o.braced rest line ∧ Factors ⟨o.after, os⟩ rest := by
  constructor
  · rintro ⟨rfl, -, hname, hends, hfree, hexact⟩
    refine ⟨o.after ++ os.flatMap Occurrence.source, ⟨hname, ?_, hends⟩, ⟨rfl, hfree, hexact⟩⟩
    simp [source, Occurrence.source]
  · rintro ⟨rest, hat, ⟨rfl, hfree, hexact⟩⟩
    refine ⟨?_, freeOfReferences_nil _, hat.isName, hat.endsName, hfree, hexact⟩
    rw [← hat.source_append]
    simp [source, Occurrence.source]

/-! ## The pieces of a line, gathered -/

/-- Pieces with the literal ones gathered. -/
def ofPieces : List Piece → Factorization
  | [] => ⟨[], []⟩
  | .literal c :: ps => { ofPieces ps with lead := c :: (ofPieces ps).lead }
  | .reference name braced :: ps =>
      ⟨[], ⟨name, braced, (ofPieces ps).lead⟩ :: (ofPieces ps).refs⟩

/-- Gathered or not, the pieces have the same values. -/
theorem expand_ofPieces (value : Text → Text) (ps : List Piece) :
    (ofPieces ps).expand value = ps.flatMap (Piece.value value) := by
  induction ps with
  | nil => rfl
  | cons p ps ih =>
      rw [List.flatMap_cons, ← ih]
      cases p with
      | literal c => rfl
      | reference name braced => simp [ofPieces, expand, Piece.value]

/-- The gathered pieces of a line are a factorization of it. -/
theorem factors_ofPieces (line : Text) : (ofPieces (Piece.ofLine line)).Factors line := by
  fun_induction Piece.ofLine line with
  | case1 => exact factors_nil.mpr rfl
  | case2 cs name braced rest h ih =>
      exact factors_cons_refs.mpr ⟨rest, reference?_eq_some_iff.mp h, ih⟩
  | case3 cs h ih => exact factors_cons_lead.mpr ⟨cs, rfl, reference?_eq_none_iff.mp h, ih⟩
  | case4 c cs hc ih => exact factors_cons_lead.mpr ⟨cs, rfl, not_beginsReference_cons hc, ih⟩

/-- Literal characters in front of a factorization that consists of pieces. -/
theorem Factors.eq_ofPieces_of_lead {os : List Occurrence}
    (hos : ∀ t : Text, Factors ⟨[], os⟩ t → ⟨[], os⟩ = ofPieces (Piece.ofLine t))
    (lead : Text) {line : Text} (h : Factors ⟨lead, os⟩ line) :
    ⟨lead, os⟩ = ofPieces (Piece.ofLine line) := by
  induction lead generalizing line with
  | nil => exact hos line h
  | cons c lead ih =>
      obtain ⟨cs, rfl, hno, hrest⟩ := factors_cons_lead.mp h
      rw [Piece.ofLine_cons_of_not_beginsReference hno, ofPieces, ← ih hrest]

/-- A factorization of a line consists of its pieces. -/
theorem Factors.eq_ofPieces {f : Factorization} {line : Text} (h : f.Factors line) :
    f = ofPieces (Piece.ofLine line) := by
  obtain ⟨lead, os⟩ := f
  induction os generalizing lead line with
  | nil =>
      refine eq_ofPieces_of_lead (fun t ht => ?_) lead h
      obtain rfl := factors_nil.mp ht
      simp [Piece.ofLine, ofPieces]
  | cons o os ih =>
      refine eq_ofPieces_of_lead (fun t ht => ?_) lead h
      obtain ⟨rest, hat, hrest⟩ := factors_cons_refs.mp ht
      rw [Piece.ofLine_of_referenceAt hat, ofPieces, ← ih o.after hrest]

end Factorization

/-- **A line has one and only one factorization** into literals and references, and substitution
puts the stored value of its name, or the empty text, in the place of every reference.  A dollar
sign that begins no reference stays where it is. -/
theorem existsUnique_factorization_and_substitute_eq (line : Text) :
    ∃ f : Factorization, (∀ g : Factorization, g.Factors line ↔ g = f) ∧
      ∀ vars : Variables,
        substitute vars.lookup line = f.expand (fun name => (vars.get? name).getD []) ∧
        ∀ before after : Text, line = before ++ '$' :: after → ¬ BeginsReference ('$' :: after) →
          substitute vars.lookup line =
            substitute vars.lookup before ++ '$' :: substitute vars.lookup after := by
  refine ⟨Factorization.ofPieces (Piece.ofLine line), fun g => ⟨fun h => h.eq_ofPieces, ?_⟩,
    fun vars => ⟨?_, ?_⟩⟩
  · rintro rfl
    exact Factorization.factors_ofPieces line
  · exact (Factorization.expand_ofPieces vars.lookup (Piece.ofLine line)).symm
  · rintro before after rfl hno
    have hseam : IsSeam ('$' :: after) := by
      intro c hc
      obtain rfl : '$' = c := by simpa using hc
      decide
    rw [substitute_append_of_seam vars.lookup hseam,
      substitute_cons_of_not_beginsReference vars.lookup hno]

end TextShell
