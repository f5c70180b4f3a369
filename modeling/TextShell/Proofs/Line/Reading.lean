import TextShell.Proofs.Line.Grammar

/-!
# The one reading of a line

A line has exactly one reading under the quoting grammar, and its stages are what the scanner
returns.

A reading is the same as its items (`Reading.items_ofItems`, `Reading.ofItems_items`), so that the
existence and the uniqueness of readings are facts about lists of items with the same text.  Both go
from left to right: the first character says what the first item is, and for a quote the next
occurrence of the same quote says where the item ends.

The scanner is followed item by item (`Scan.read`).  The induction is on the items from an arbitrary
state without an open quote, since the scanner carries what it has read so far.
-/

namespace TextShell

namespace Grammar

/-! ## Every line is written by items -/

/-- Every text is written by items of which only the last may be an unclosed span. -/
theorem exists_items (line : Text) :
    ∃ es : List Item, es.flatMap Item.source = line ∧ UnclosedLast es := by
  match line with
  | [] => exact ⟨[], rfl, trivial⟩
  | c :: cs =>
      rcases isPlain_or_isQuote_or_isBlank_or_eq_bar c with hc | hc | hc | hc
      · obtain ⟨es, hes, hlast⟩ := exists_items cs
        exact ⟨.part (.plain c hc) :: es, by rw [List.flatMap_cons, hes]; rfl, False.elim, hlast⟩
      · by_cases hmem : c ∈ cs
        · -- the span ends at the next occurrence of its quote
          obtain ⟨held, rest, rfl, hheld⟩ := List.eq_append_cons_of_mem hmem
          obtain ⟨es, hes, hlast⟩ := exists_items rest
          refine ⟨.part (.span c held true hc hheld) :: es, ?_, nofun, hlast⟩
          rw [List.flatMap_cons, hes]
          simp [Item.source, Part.source]
        · exact ⟨[.part (.span c cs false hc hmem)], List.append_nil _, fun _ => rfl, trivial⟩
      · obtain ⟨es, hes, hlast⟩ := exists_items cs
        exact ⟨.blank ⟨c, hc⟩ :: es, by rw [List.flatMap_cons, hes]; rfl, False.elim, hlast⟩
      · obtain ⟨es, hes, hlast⟩ := exists_items cs
        exact ⟨.bar :: es, by rw [List.flatMap_cons, hes, hc]; rfl, False.elim, hlast⟩
termination_by line.length
decreasing_by
  all_goals simp only [*, List.length_cons, List.length_append]
  all_goals omega

/-! ## One way only -/

/-- A text that holds a character is cut at its first occurrence in one way only. -/
theorem append_cons_cancel {q : Char} {held held' rest rest' : Text} (hheld : q ∉ held)
    (hheld' : q ∉ held') (h : held ++ q :: rest = held' ++ q :: rest') :
    held = held' ∧ rest = rest' := by
  rcases List.append_eq_append_iff.mp h with ⟨as, rfl, has⟩ | ⟨as, rfl, has⟩
  · cases as with
    | nil => exact ⟨(List.append_nil _).symm, (List.cons.inj has).2⟩
    | cons a as =>
        obtain ⟨rfl, -⟩ := List.cons.inj has
        exact absurd (by simp) hheld'
  · cases as with
    | nil => exact ⟨List.append_nil _, (List.cons.inj has).2.symm⟩
    | cons a as =>
        obtain ⟨rfl, -⟩ := List.cons.inj has
        exact absurd (by simp) hheld

/-- What an item may be. -/
inductive Kind where
  | plain
  | span
  | blank
  | bar

/-- What a character begins outside quotes. -/
def Kind.ofChar (c : Char) : Kind :=
  if isQuote c then span else if c = '|' then bar else if isBlank c then blank else plain

namespace Item

/-- The kind of an item. -/
def kind : Item → Kind
  | part (.plain _ _) => .plain
  | part (.span _ _ _ _ _) => .span
  | blank _ => .blank
  | bar => .bar

/-- The first character of an item says of what kind it is. -/
theorem exists_source_eq_cons (e : Item) :
    ∃ c cs, e.source = c :: cs ∧ e.kind = Kind.ofChar c := by
  cases e with
  | part p =>
      cases p with
      | plain c hc =>
          obtain ⟨hb, hbar, hq⟩ := isPlain_iff.mp hc
          exact ⟨c, [], rfl, by simp [kind, Kind.ofChar, hb, hbar, hq]⟩
      | span q held closed hq hheld =>
          have hkind : Kind.span = Kind.ofChar q := by simp [Kind.ofChar, hq]
          cases closed with
          | true => exact ⟨q, held ++ [q], rfl, hkind⟩
          | false => exact ⟨q, held, rfl, hkind⟩
  | blank b =>
      obtain ⟨c, hc⟩ := b
      refine ⟨c, [], rfl, ?_⟩
      simp [kind, Kind.ofChar, hc, ne_bar_of_isBlank hc, isQuote_eq_false_of_isBlank hc]
  | bar => exact ⟨'|', [], rfl, by simp [kind, Kind.ofChar, show isQuote '|' = false by decide]⟩

/-- Two items that begin with the same character are of the same kind. -/
theorem kind_eq_of_append_eq {e e' : Item} {t t' : Text} (h : e.source ++ t = e'.source ++ t') :
    e.kind = e'.kind := by
  obtain ⟨c, cs, hsource, hkind⟩ := e.exists_source_eq_cons
  obtain ⟨c', cs', hsource', hkind'⟩ := e'.exists_source_eq_cons
  rw [hsource, hsource'] at h
  rw [hkind, hkind', (List.cons.inj h).1]

end Item

/-- Two spans with the same text are the same, where an unclosed one is followed by nothing. -/
theorem span_cancel {q q' : Char} {held held' : Text} {closed closed' : Bool}
    {hq : isQuote q = true} {hq' : isQuote q' = true} {hheld : q ∉ held} {hheld' : q' ∉ held'}
    {t t' : Text} (ht : closed = false → t = []) (ht' : closed' = false → t' = [])
    (h : (Part.span q held closed hq hheld).source ++ t =
      (Part.span q' held' closed' hq' hheld').source ++ t') :
    Part.span q held closed hq hheld = Part.span q' held' closed' hq' hheld' ∧ t = t' := by
  cases closed with
  | true =>
      cases closed' with
      | true =>
          simp only [Part.source, List.cons_append, List.append_assoc, List.cons.injEq] at h
          obtain ⟨rfl, htail⟩ := h
          obtain ⟨rfl, rfl⟩ := append_cons_cancel hheld hheld' htail
          exact ⟨rfl, rfl⟩
      | false =>
          -- the closing quote of the first span would be held by the second
          rw [ht' rfl] at h
          simp only [Part.source, List.cons_append, List.append_assoc, List.append_nil,
            List.cons.injEq] at h
          obtain ⟨rfl, rfl⟩ := h
          exact absurd (by simp) hheld'
  | false =>
      rw [ht rfl] at h ⊢
      cases closed' with
      | true =>
          simp only [Part.source, List.cons_append, List.append_assoc, List.append_nil,
            List.cons.injEq] at h
          obtain ⟨rfl, rfl⟩ := h
          exact absurd (by simp) hheld
      | false =>
          rw [ht' rfl] at h ⊢
          simp only [Part.source, List.append_nil, List.cons.injEq] at h
          obtain ⟨rfl, rfl⟩ := h
          exact ⟨rfl, rfl⟩

/-- **The first item of a text is determined**, and with it what follows. -/
theorem Item.cancel {e e' : Item} {t t' : Text} (ht : e.IsUnclosed → t = [])
    (ht' : e'.IsUnclosed → t' = []) (h : e.source ++ t = e'.source ++ t') : e = e' ∧ t = t' := by
  have hkind := kind_eq_of_append_eq h
  match e, e' with
  | .part (.plain c hc), .part (.plain c' hc') =>
      obtain ⟨rfl, rfl⟩ := List.cons.inj h
      exact ⟨rfl, rfl⟩
  | .part (.span q held closed hq hheld), .part (.span q' held' closed' hq' hheld') =>
      obtain ⟨hspan, rfl⟩ := span_cancel ht ht' h
      exact ⟨congrArg Item.part hspan, rfl⟩
  | .blank ⟨c, hc⟩, .blank ⟨c', hc'⟩ =>
      obtain ⟨rfl, rfl⟩ := List.cons.inj h
      exact ⟨rfl, rfl⟩
  | .bar, .bar => exact ⟨rfl, (List.cons.inj h).2⟩

/-- Items with the same text are the same. -/
theorem items_eq_of_source_eq {es es' : List Item} (hes : UnclosedLast es)
    (hes' : UnclosedLast es') (h : es.flatMap Item.source = es'.flatMap Item.source) :
    es = es' := by
  induction es generalizing es' with
  | nil =>
      cases es' with
      | nil => rfl
      | cons e' es' =>
          obtain ⟨c, cs, hsource, -⟩ := e'.exists_source_eq_cons
          rw [List.flatMap_cons, hsource] at h
          cases h
  | cons e es ih =>
      cases es' with
      | nil =>
          obtain ⟨c, cs, hsource, -⟩ := e.exists_source_eq_cons
          rw [List.flatMap_cons, hsource] at h
          cases h
      | cons e' es' =>
          rw [List.flatMap_cons, List.flatMap_cons] at h
          obtain ⟨rfl, htail⟩ := Item.cancel (fun hu => by rw [hes.1 hu]; rfl)
            (fun hu => by rw [hes'.1 hu]; rfl) h
          rw [ih hes.2 hes'.2 htail]

/-- Two readings of a line are the same. -/
theorem Reading.Reads.eq {r r' : Reading} {line : Text} (h : r.Reads line) (h' : r'.Reads line) :
    r = r' :=
  Reading.items_injective (items_eq_of_source_eq h.unclosedLast h'.unclosedLast
    (h.source_eq.trans h'.source_eq.symm))

/-- Every line has a reading. -/
theorem exists_reads (line : Text) : ∃ r : Reading, r.Reads line := by
  obtain ⟨es, hsource, hlast⟩ := exists_items line
  refine ⟨Reading.ofItems es, ⟨?_, ?_⟩⟩
  · rw [Reading.source, Reading.items_ofItems, hsource]
  · rw [Reading.items_ofItems]
    exact hlast

end Grammar

/-! ## The scanner on items -/

namespace Scan

open Grammar

/-- What one item does to a state without an open quote. -/
def read (s : Scan) : Item → Scan
  | .part p => s.append p.value
  | .blank _ => s.endWord
  | .bar => s.endStage

@[simp] theorem read_quote (s : Scan) (e : Item) : (s.read e).quote = s.quote := by
  cases e with
  | part p => rfl
  | blank b => exact s.endWord_quote
  | bar => exact s.endStage_quote

/-- The scanner reads an item as a whole, an unclosed span apart. -/
theorem foldl_step_item {s : Scan} {e : Item} (hs : s.quote = none) (he : ¬ e.IsUnclosed) :
    e.source.foldl step s = s.read e := by
  cases e with
  | part p =>
      cases p with
      | plain c hc => exact step_of_isPlain hs hc
      | span q held closed hq hheld =>
          cases closed with
          | true => exact foldl_step_span hs hq hheld
          | false => exact absurd rfl he
  | blank b => exact step_of_isBlank hs b.property
  | bar => exact step_bar hs

/-- The stages of a text are those that its items make. -/
theorem groups_foldl_step {es : List Item} (hes : UnclosedLast es) {s : Scan}
    (hs : s.quote = none) :
    ((es.flatMap Item.source).foldl step s).groups = (es.foldl read s).groups := by
  induction es generalizing s with
  | nil => rfl
  | cons e es ih =>
      rw [List.flatMap_cons, List.foldl_append, List.foldl_cons]
      by_cases he : e.IsUnclosed
      · -- the span runs to the end of the line, and the open quote does not show in the stages
        obtain rfl : es = [] := hes.1 he
        match e, he with
        | .part (.span q held false hq hheld), _ =>
            show ((q :: held).foldl step s).groups = (s.append held).groups
            rw [foldl_step_open hs hq hheld, groups_with_quote]
      · rw [foldl_step_item hs he]
        exact ih hes.2 ((read_quote s e).trans hs)

/-- Parts join the word in progress one after the other. -/
theorem foldl_read_parts (ps : List Part) (s : Scan) (t : Text) :
    (ps.map Item.part).foldl read (s.append t) = s.append (t ++ ps.flatMap Part.value) := by
  induction ps generalizing t with
  | nil => simp
  | cons p ps ih =>
      rw [List.map_cons, List.foldl_cons, read, append_append, ih, List.flatMap_cons,
        List.append_assoc]

/-- A word joins the word in progress. -/
theorem foldl_read_word (w : Word) (s : Scan) : w.items.foldl read s = s.append w.value := by
  obtain ⟨p, ps⟩ := w
  exact foldl_read_parts ps s p.value

/-- Blanks end the word in progress, once they are there. -/
theorem foldl_read_blanks (bs : List Blank) (s : Scan) :
    (bs.map Item.blank).foldl read s.endWord = s.endWord := by
  induction bs with
  | nil => rfl
  | cons b bs ih => rw [List.map_cons, List.foldl_cons, read, endWord_endWord, ih]

/-- Blanks before the end of a stage change nothing. -/
theorem endWord_foldl_read_blanks (bs : List Blank) (s : Scan) :
    ((bs.map Item.blank).foldl read s).endWord = s.endWord := by
  cases bs with
  | nil => rfl
  | cons b bs => rw [List.map_cons, List.foldl_cons, read, foldl_read_blanks, endWord_endWord]

/-- A gap ends the word in progress. -/
theorem foldl_read_gap (g : Gap) (s : Scan) : g.items.foldl read s = s.endWord :=
  foldl_read_blanks g.rest s

/-- The words of a stage, from the first one on. -/
theorem foldl_read_words (w : Word) (rest : List (Gap × Word)) (finished : List (List Text))
    (words : List Text) :
    (rest.foldl (fun s gw => (gw.1.items ++ gw.2.items).foldl read s)
        ((between finished words).append w.value)).endWord =
      between finished ((w.value :: rest.map fun gw => gw.2.value).reverse ++ words) := by
  induction rest generalizing w words with
  | nil => exact endWord_append_between finished words w.value
  | cons gw rest ih =>
      obtain ⟨g, v⟩ := gw
      rw [List.foldl_cons, List.foldl_append, foldl_read_gap, endWord_append_between,
        foldl_read_word, ih]
      simp

/-- A stage, from its beginning to the bar or the end of the line after it. -/
theorem endStage_foldl_read_stage (st : Stage) (finished : List (List Text)) :
    (st.items.foldl read (between finished [])).endStage = between (st.values :: finished) [] := by
  cases st with
  | blank blanks =>
      rw [← endStage_endWord, Stage.items, endWord_foldl_read_blanks]
      rfl
  | words lead first rest trail =>
      have hlead : (lead.map Item.blank).foldl read (between finished []) = between finished [] :=
        foldl_read_blanks lead (between finished [])
      rw [← endStage_endWord, Stage.items, List.foldl_append, hlead, List.foldl_append,
        foldl_read_word, List.foldl_append, endWord_foldl_read_blanks, List.foldl_flatMap,
        foldl_read_words, endStage_between]
      simp [Stage.values]

/-- The stages of a reading are the values of its words. -/
theorem groups_foldl_read (r : Reading) (finished : List (List Text)) :
    (r.items.foldl read (between finished [])).groups = finished.reverse ++ r.values := by
  obtain ⟨first, rest⟩ := r
  induction rest generalizing first finished with
  | nil =>
      rw [groups, Reading.items, List.flatMap_nil, List.append_nil, endStage_foldl_read_stage]
      simp [between, Reading.values]
  | cons st rest ih =>
      have hnext := ih (first.values :: finished) st
      rw [Reading.items, List.foldl_append] at hnext ⊢
      rw [List.flatMap_cons, List.cons_append, List.foldl_cons, read, endStage_foldl_read_stage,
        List.foldl_append, hnext]
      simp [Reading.values]

end Scan

/-- The scanner finds the stages of every reading of the line. -/
theorem Grammar.Reading.Reads.groups_scan {r : Grammar.Reading} {line : Text} (h : r.Reads line) :
    (scan line).groups = r.values := by
  rw [← h.source_eq, scan, Grammar.Reading.source, Scan.groups_foldl_step h.unclosedLast rfl]
  exact Scan.groups_foldl_read r []

/-- **A line has one and only one reading** under the quoting grammar, and the scanner returns its
stages: the values of their words, without the stages that have no word. -/
theorem existsUnique_reading_and_stages_eq (line : Text) :
    ∃ r : Grammar.Reading, (∀ r' : Grammar.Reading, r'.Reads line ↔ r' = r) ∧
      stages line = r.values.filter fun words => !words.isEmpty := by
  obtain ⟨r, hr⟩ := Grammar.exists_reads line
  refine ⟨r, fun r' => ⟨fun h => h.eq hr, fun h => h ▸ hr⟩, ?_⟩
  rw [stages, hr.groups_scan]

/-- Touching parts make one word, an empty span makes an empty one, a stage without words is dropped
and an unclosed span runs to the end. -/
example :
    stages ['a', '"', ' ', '"', '|', ' ', '|', '\'', '\'', ' ', 'b', '\'', '|'] =
      [[['a', ' ']], [[], ['b', '|']]] := by
  decide

end TextShell
