import TextShell.Proofs.Line.Scanning

/-!
# The quoting grammar

The grammar of lines, stated without the scanner: a line is stages with bars between them, a stage
is words with blanks between and around them, a word is one or more parts, and a part is one plain
character or a quoted span.

What the scanner has to be local about is kept in the types: a plain character is plain, a span does
not hold its own quote, a word has a part, and the gap between two words has a blank.  One rule is
about the line as a whole, that only the last part of a line may be a span without its closing
quote, and that nothing follows it then.  It is a predicate (`UnclosedLast`) on the line's `Item`s,
the parts, blanks and bars from left to right.

## Main Definitions

* `Part`, `Word`, `Gap`, `Stage`, `Reading` — the grammar, from the inside out
* `Item`, `Reading.items` — a reading laid out flat, and `Reading.ofItems`, which groups it again
* `Reading.Reads` — a reading is one of a line
* `Reading.values` — the values of the words of every stage
-/

namespace TextShell.Grammar

/-- A part of a word. -/
inductive Part where
  /-- One character that is no blank, bar or quote. -/
  | plain (c : Char) (isPlain : isPlain c = true)
  /-- A quoted span, which holds any characters but its own quote; `closed` says whether the closing
  quote is there. -/
  | span (quote : Char) (held : Text) (closed : Bool) (isQuote : isQuote quote = true)
    (notMem : quote ∉ held)

namespace Part

/-- How a part is written. -/
def source : Part → Text
  | plain c _ => [c]
  | span q held true _ _ => q :: (held ++ [q])
  | span q held false _ _ => q :: held

/-- What a part adds to its word: the quotes of a span are left out. -/
def value : Part → Text
  | plain c _ => [c]
  | span _ held _ _ _ => held

/-- A span without its closing quote. -/
def IsUnclosed : Part → Prop
  | plain _ _ => False
  | span _ _ closed _ _ => closed = false

end Part

/-- A blank. -/
abbrev Blank := { c : Char // isBlank c = true }

/-- One or more parts. -/
structure Word where
  /-- The first part. -/
  first : Part
  /-- The parts after it. -/
  rest : List Part

/-- The parts of a word. -/
def Word.parts (w : Word) : List Part :=
  w.first :: w.rest

/-- The value of a word: its parts in order, without the quotes. -/
def Word.value (w : Word) : Text :=
  w.parts.flatMap Part.value

/-- One or more blanks, which separate two words. -/
structure Gap where
  /-- The first blank. -/
  first : Blank
  /-- The blanks after it. -/
  rest : List Blank

/-- The blanks of a gap. -/
def Gap.blanks (g : Gap) : List Blank :=
  g.first :: g.rest

/-- A stage. -/
inductive Stage where
  /-- A stage without words. -/
  | blank (blanks : List Blank)
  /-- A stage of one or more words, with or without blanks at its two ends. -/
  | words (lead : List Blank) (first : Word) (rest : List (Gap × Word)) (trail : List Blank)

/-- The values of the words of a stage. -/
def Stage.values : Stage → List Text
  | .blank _ => []
  | .words _ first rest _ => first.value :: rest.map fun gw => gw.2.value

/-- One or more stages. -/
structure Reading where
  /-- The first stage. -/
  first : Stage
  /-- The stages after it, each after a bar. -/
  rest : List Stage

/-- The values of the words of every stage. -/
def Reading.values (r : Reading) : List (List Text) :=
  (r.first :: r.rest).map Stage.values

/-! ## Laid out flat -/

/-- What a line is made of, from left to right. -/
inductive Item where
  /-- A part of a word. -/
  | part (p : Part)
  /-- An unquoted blank. -/
  | blank (b : Blank)
  /-- An unquoted bar. -/
  | bar

namespace Item

/-- How an item is written. -/
def source : Item → Text
  | part p => p.source
  | blank b => [b.val]
  | bar => ['|']

/-- An item that is a span without its closing quote. -/
def IsUnclosed : Item → Prop
  | part p => p.IsUnclosed
  | blank _ => False
  | bar => False

end Item

/-- Only the last item may be a span without its closing quote. -/
def UnclosedLast : List Item → Prop
  | [] => True
  | e :: es => (e.IsUnclosed → es = []) ∧ UnclosedLast es

/-- The items of a word. -/
def Word.items (w : Word) : List Item :=
  w.parts.map .part

/-- The items of a gap. -/
def Gap.items (g : Gap) : List Item :=
  g.blanks.map .blank

/-- The items of a stage. -/
def Stage.items : Stage → List Item
  | .blank blanks => blanks.map .blank
  | .words lead first rest trail =>
      lead.map .blank ++ (first.items ++
        (rest.flatMap (fun gw => gw.1.items ++ gw.2.items) ++ trail.map .blank))

namespace Reading

/-- The items of a reading: those of its stages, with bars between them. -/
def items (r : Reading) : List Item :=
  r.first.items ++ r.rest.flatMap fun st => .bar :: st.items

/-- How a reading is written. -/
def source (r : Reading) : Text :=
  r.items.flatMap Item.source

/-- **A reading of a line**: it is written as the line, and a span without its closing quote runs to
the end of the line. -/
structure Reads (r : Reading) (line : Text) : Prop where
  /-- The reading is written as the line. -/
  source_eq : r.source = line
  /-- Nothing follows a span without its closing quote. -/
  unclosedLast : UnclosedLast r.items

end Reading

/-! ## Grouping items

The items of a reading determine it: stages end at bars and words at blanks.  `Reading.ofItems` puts
one item after the other in front of what the items after it make. -/

namespace Stage

/-- A stage with one more blank in front. -/
def consBlank (b : Blank) : Stage → Stage
  | .blank blanks => .blank (b :: blanks)
  | .words lead first rest trail => .words (b :: lead) first rest trail

/-- A stage with one more part in front, which joins the first word if the stage begins with it and
is a word of its own otherwise. -/
def consPart (p : Part) : Stage → Stage
  | .blank blanks => .words [] ⟨p, []⟩ [] blanks
  | .words [] first rest trail => .words [] ⟨p, first.parts⟩ rest trail
  | .words (b :: lead) first rest trail => .words [] ⟨p, []⟩ ((⟨b, lead⟩, first) :: rest) trail

theorem items_consBlank (b : Blank) (st : Stage) :
    (st.consBlank b).items = .blank b :: st.items := by
  cases st with
  | blank blanks => rfl
  | words lead first rest trail => rfl

theorem items_consPart (p : Part) (st : Stage) : (st.consPart p).items = .part p :: st.items := by
  cases st with
  | blank blanks => rfl
  | words lead first rest trail =>
      cases lead with
      | nil => rfl
      | cons b lead => simp [consPart, items, Word.items, Word.parts, Gap.items, Gap.blanks]

end Stage

namespace Reading

/-- The reading of which some items are the items. -/
def ofItems : List Item → Reading
  | [] => ⟨.blank [], []⟩
  | .part p :: es => { ofItems es with first := (ofItems es).first.consPart p }
  | .blank b :: es => { ofItems es with first := (ofItems es).first.consBlank b }
  | .bar :: es => ⟨.blank [], (ofItems es).first :: (ofItems es).rest⟩

/-- Grouping neither loses nor adds an item. -/
theorem items_ofItems (es : List Item) : (ofItems es).items = es := by
  induction es with
  | nil => rfl
  | cons e es ih =>
      cases e with
      | part p => rw [ofItems, items, Stage.items_consPart, List.cons_append, ← items, ih]
      | blank b => rw [ofItems, items, Stage.items_consBlank, List.cons_append, ← items, ih]
      | bar =>
          show Stage.items (.blank []) ++ (Item.bar :: (ofItems es).items) = _
          rw [ih]
          rfl

section OfItems

variable {es : List Item} {later : List Stage}

/-- Blanks in front of a stage without words. -/
theorem ofItems_blanks_of_blank (bs : List Blank) (h : ofItems es = ⟨.blank [], later⟩) :
    ofItems (bs.map .blank ++ es) = ⟨.blank bs, later⟩ := by
  induction bs with
  | nil => exact h
  | cons b bs ih => rw [List.map_cons, List.cons_append, ofItems, ih, Stage.consBlank]

/-- Blanks in front of a stage that begins with a word. -/
theorem ofItems_blanks_of_words (bs : List Blank) {w : Word} {rest : List (Gap × Word)}
    {trail : List Blank} (h : ofItems es = ⟨.words [] w rest trail, later⟩) :
    ofItems (bs.map .blank ++ es) = ⟨.words bs w rest trail, later⟩ := by
  induction bs with
  | nil => exact h
  | cons b bs ih => rw [List.map_cons, List.cons_append, ofItems, ih, Stage.consBlank]

/-- A word in front of a stage on which its last part makes a word of its own. -/
theorem ofItems_word (w : Word) {st : Stage} {rest : List (Gap × Word)} {trail : List Blank}
    (h : ofItems es = ⟨st, later⟩)
    (hst : ∀ p : Part, st.consPart p = .words [] ⟨p, []⟩ rest trail) :
    ofItems (w.items ++ es) = ⟨.words [] w rest trail, later⟩ := by
  obtain ⟨p, ps⟩ := w
  simp only [Word.items, Word.parts]
  induction ps generalizing p with
  | nil => rw [List.map_singleton, List.singleton_append, ofItems, h, hst]
  | cons q qs ih => rw [List.map_cons, List.cons_append, ofItems, ih q, Stage.consPart, Word.parts]

/-- The words of a stage, from the first one on. -/
theorem ofItems_words (w : Word) (rest : List (Gap × Word)) (trail : List Blank)
    (h : ofItems es = ⟨.blank [], later⟩) :
    ofItems (w.items ++ (rest.flatMap (fun gw => gw.1.items ++ gw.2.items) ++
        (trail.map .blank ++ es))) = ⟨.words [] w rest trail, later⟩ := by
  induction rest generalizing w with
  | nil => exact ofItems_word w (ofItems_blanks_of_blank trail h) fun _ => rfl
  | cons gw rest ih =>
      obtain ⟨g, v⟩ := gw
      have hgap := ofItems_blanks_of_words g.blanks (ih v)
      rw [List.flatMap_cons, List.append_assoc, List.append_assoc]
      exact ofItems_word w hgap fun _ => rfl

/-- A stage in front of the end of the line or of a bar. -/
theorem ofItems_stage (st : Stage) (h : ofItems es = ⟨.blank [], later⟩) :
    ofItems (st.items ++ es) = ⟨st, later⟩ := by
  cases st with
  | blank blanks => exact ofItems_blanks_of_blank blanks h
  | words lead first rest trail =>
      have hwords := ofItems_blanks_of_words lead (ofItems_words first rest trail h)
      simpa only [Stage.items, List.append_assoc] using hwords

end OfItems

/-- Grouping the items of a reading gives the reading back. -/
theorem ofItems_items (r : Reading) : ofItems r.items = r := by
  obtain ⟨first, rest⟩ := r
  refine ofItems_stage first ?_
  induction rest with
  | nil => rfl
  | cons st rest ih =>
      rw [List.flatMap_cons, List.cons_append, ofItems, ofItems_stage st ih]

theorem items_injective {r r' : Reading} (h : r.items = r'.items) : r = r' := by
  rw [← ofItems_items r, h, ofItems_items r']

end Reading

end TextShell.Grammar
