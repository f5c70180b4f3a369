import TextShell.Proofs.Grep.Item

/-!
# Reading the arguments of `grep`

The arguments of every reading are accepted with the options that the reading stands for, and what
begins with a mistake is refused with it; both are shown by following the arguments item by item.
The other half needs no look at the program any more: all arguments have a reading whose items are
read, or a mistake after such items, so whatever is accepted or refused is so for one of these
reasons.

What is remembered along the way is a `GrepDraft`.  `Remembers` ties it to the items so far, and an
item that is read takes it on to the items with itself at the end.
-/

namespace TextShell

namespace GrepDraft

/-- Whether a draft has a switch set. -/
def isSet (d : GrepDraft) : GrepSwitch → Bool
  | .ignoreCase => d.ignoreCase
  | .wholeWord => d.wholeWord

@[simp]
theorem isSet_flip (d : GrepDraft) (s s' : GrepSwitch) :
    (d.flip s).isSet s' = (decide (s' = s) || d.isSet s') := by
  cases s <;> cases s' <;> rfl

@[simp]
theorem positionals_flip (d : GrepDraft) (s : GrepSwitch) :
    (d.flip s).positionals = d.positionals := by
  cases s <;> rfl

@[simp]
theorem after_flip (d : GrepDraft) (s : GrepSwitch) : (d.flip s).after = d.after := by
  cases s <;> rfl

theorem isSet_flipAll (d : GrepDraft) (switches : List GrepSwitch) (s : GrepSwitch) :
    (d.flipAll switches).isSet s = true ↔ d.isSet s = true ∨ s ∈ switches := by
  unfold flipAll
  induction switches generalizing d with
  | nil => simp
  | cons t ts ih =>
      rw [List.foldl_cons, ih, isSet_flip, List.mem_cons, Bool.or_eq_true, decide_eq_true_iff]
      exact or_assoc.trans or_left_comm

@[simp]
theorem positionals_flipAll (d : GrepDraft) (switches : List GrepSwitch) :
    (d.flipAll switches).positionals = d.positionals := by
  unfold flipAll
  induction switches generalizing d with
  | nil => rfl
  | cons t ts ih => rw [List.foldl_cons, ih, positionals_flip]

@[simp]
theorem after_flipAll (d : GrepDraft) (switches : List GrepSwitch) :
    (d.flipAll switches).after = d.after := by
  unfold flipAll
  induction switches generalizing d with
  | nil => rfl
  | cons t ts ih => rw [List.foldl_cons, ih, after_flip]

end GrepDraft

namespace GrepGrammar

/-! ## One item -/

section

variable (d : GrepDraft) {item : Item}

/-- Items of switches set them. -/
theorem read_written_of_switches (hpositional : item.positional? = none)
    (hcount : item.count? = none) (rest : List Text) :
    d.read (item.written ++ rest) = (d.flipAll item.switches).read rest := by
  cases item with
  | positional => cases hpositional
  | switch s =>
      rw [Item.written, List.singleton_append, GrepDraft.read, ofArgument_longForm]
      rfl
  | cluster first more =>
      rw [Item.written, List.singleton_append, GrepDraft.read, ofArgument_cluster]
      rfl
  | joined => cases hcount
  | apart => cases hcount

/-- Items with a count set their switches, and then the value decides. -/
theorem read_written_of_count {value : Text} (hcount : item.count? = some value)
    (rest : List Text) :
    d.read (item.written ++ rest) =
      match (d.flipAll item.switches).count value with
      | .ok d' => d'.read rest
      | .error e => .error e := by
  cases item with
  | positional => cases hcount
  | switch => cases hcount
  | cluster => cases hcount
  | joined option value' hadmits =>
      cases hcount
      rw [Item.written, List.singleton_append, GrepDraft.read, ofArgument_sourceWith hadmits]
      rfl
  | apart option value' =>
      cases hcount
      rw [Item.written, List.cons_append, List.singleton_append, GrepDraft.read,
        ofArgument_source]
      rfl

theorem read_written_of_asks {value : Text} {n : Nat} (hcount : item.count? = some value)
    (hn : Asks value n) (rest : List Text) :
    d.read (item.written ++ rest) =
      ({ d.flipAll item.switches with after := n } : GrepDraft).read rest := by
  rw [read_written_of_count d hcount, GrepDraft.count, grepCount_eq_ok_of_asks hn]
  rfl

theorem read_written_of_countMistake {value : Text} {e : GrepArgumentError}
    (hcount : item.count? = some value) (he : CountMistake value e) (rest : List Text) :
    d.read (item.written ++ rest) = .error e := by
  rw [read_written_of_count d hcount, GrepDraft.count, grepCount_eq_error_of_countMistake he]
  rfl

end

/-! ## Items that are read -/

/-- A draft holds what some items say. -/
structure Remembers (d : GrepDraft) (items : List Item) : Prop where
  positionals : d.positionals.reverse = items.filterMap Item.positional?
  isSet_iff : ∀ s, d.isSet s = true ↔ s ∈ items.flatMap Item.switches
  after : AsksLast (items.filterMap Item.count?) d.after

/-- Nothing is remembered at first. -/
theorem remembers_nil : Remembers {} [] where
  positionals := rfl
  isSet_iff s := by cases s <;> simp [GrepDraft.isSet]
  after := rfl

namespace Remembers

variable {d : GrepDraft} {items : List Item} {item : Item}

theorem append_positional (h : Remembers d items) (value : Text) (hvalue : IsPositional value) :
    Remembers { d with positionals := value :: d.positionals }
      (items ++ [.positional value hvalue]) where
  positionals := by simp [h.positionals, Item.positional?]
  isSet_iff s := by
    rw [List.flatMap_append, List.flatMap_singleton, Item.switches, List.append_nil, ← h.isSet_iff]
    cases s <;> rfl
  after := by
    have hcount : (Item.positional value hvalue).count? = none := rfl
    simpa [hcount] using h.after

theorem append_switches (h : Remembers d items) (hpositional : item.positional? = none)
    (hcount : item.count? = none) : Remembers (d.flipAll item.switches) (items ++ [item]) where
  positionals := by simp [h.positionals, hpositional]
  isSet_iff s := by
    rw [GrepDraft.isSet_flipAll, h.isSet_iff, List.flatMap_append, List.mem_append,
      List.flatMap_singleton]
  after := by simpa [hcount] using h.after

theorem append_count (h : Remembers d items) {value : Text} {n : Nat}
    (hpositional : item.positional? = none) (hcount : item.count? = some value)
    (hn : Asks value n) :
    Remembers { d.flipAll item.switches with after := n } (items ++ [item]) where
  positionals := by simp [h.positionals, hpositional]
  isSet_iff s := by
    rw [List.flatMap_append, List.mem_append, List.flatMap_singleton, ← h.isSet_iff,
      ← GrepDraft.isSet_flipAll]
    cases s <;> rfl
  after := by simpa [AsksLast, hcount] using hn

/-- The draft is taken from the items before an item that is read to those with it. -/
theorem exists_append (h : Remembers d items) (hread : item.IsRead) :
    ∃ d', Remembers d' (items ++ [item]) ∧
      ∀ rest, d.read (item.written ++ rest) = d'.read rest := by
  cases item with
  | positional value hvalue =>
      refine ⟨_, h.append_positional value hvalue, fun rest => ?_⟩
      rw [Item.written, List.singleton_append, GrepDraft.read, ofArgument_of_isPositional hvalue]
  | switch s => exact ⟨_, h.append_switches rfl rfl, read_written_of_switches d rfl rfl⟩
  | cluster first more =>
      exact ⟨_, h.append_switches rfl rfl, read_written_of_switches d rfl rfl⟩
  | joined option value hadmits =>
      obtain ⟨n, hn⟩ := hread value rfl
      exact ⟨_, h.append_count rfl rfl hn, read_written_of_asks d rfl hn⟩
  | apart option value =>
      obtain ⟨n, hn⟩ := hread value rfl
      exact ⟨_, h.append_count rfl rfl hn, read_written_of_asks d rfl hn⟩

/-- The same for a list of items. -/
theorem exists_append_items (h : Remembers d items) {more : List Item}
    (hread : ∀ item ∈ more, item.IsRead) :
    ∃ d', Remembers d' (items ++ more) ∧
      ∀ rest, d.read (more.flatMap Item.written ++ rest) = d'.read rest := by
  induction more generalizing d items with
  | nil => exact ⟨d, by rwa [List.append_nil], fun _ => rfl⟩
  | cons item more ih =>
      obtain ⟨hitem, hmore⟩ := List.forall_mem_cons.mp hread
      obtain ⟨d₁, h₁, hread₁⟩ := h.exists_append hitem
      obtain ⟨d₂, h₂, hread₂⟩ := ih h₁ hmore
      refine ⟨d₂, by rwa [List.append_assoc] at h₂, fun rest => ?_⟩
      rw [List.flatMap_cons, List.append_assoc, hread₁, hread₂]

end Remembers

/-! ## Readings -/

/-- The arguments of a reading are read, and what is remembered of them is what the reading says. -/
theorem exists_read_written {r : Reading} (hread : ∀ item ∈ r.items, item.IsRead) :
    ∃ d, GrepDraft.read {} r.written = .ok d ∧ d.positionals.reverse = r.positionals ∧
      (∀ s, d.isSet s = true ↔ s ∈ r.switches) ∧ AsksLast r.counts d.after := by
  obtain ⟨d, hd, hstep⟩ := remembers_nil.exists_append_items hread
  unfold Reading.written Reading.positionals
  rw [hstep]
  cases r.rest with
  | none => exact ⟨d, rfl, by simpa using hd.positionals, hd.isSet_iff, hd.after⟩
  | some rest =>
      -- two minus signs after the items add to the positional arguments only
      refine ⟨{ d with positionals := rest.reverse ++ d.positionals }, rfl, ?_, fun s => ?_,
        hd.after⟩
      · simpa using hd.positionals
      · rw [Reading.switches, ← List.nil_append r.items, ← hd.isSet_iff]
        cases s <;> rfl

/-- A reading stands for one set of options only. -/
theorem Reading.Denotes.unique {r : Reading} {o o' : GrepOptions} (h : r.Denotes o)
    (h' : r.Denotes o') : o = o' := by
  obtain ⟨hpattern, hfiles⟩ := List.cons.inj (h.positionals_eq.symm.trans h'.positionals_eq)
  have hset : ∀ s, isSet o s = isSet o' s := fun s =>
    Bool.eq_iff_iff.mpr ((h.isSet_iff s).trans (h'.isSet_iff s).symm)
  cases o
  cases o'
  congr
  · exact hset .ignoreCase
  · exact hset .wholeWord
  · exact h.after.unique h'.after

/-- A reading with a pattern stands for the options that its arguments are accepted with. -/
theorem exists_denotes {r : Reading} (hread : ∀ item ∈ r.items, item.IsRead)
    (hpositionals : r.positionals ≠ []) :
    ∃ o, r.Denotes o ∧ GrepOptions.ofArguments r.written = .ok o := by
  obtain ⟨d, hd, hreverse, hset, hafter⟩ := exists_read_written hread
  obtain ⟨pattern, files, hcons⟩ := List.exists_cons_of_ne_nil hpositionals
  refine ⟨⟨pattern, files, d.ignoreCase, d.wholeWord, d.after⟩, ⟨hread, hcons, ?_, hafter⟩, ?_⟩
  · intro s
    rw [← hset s]
    cases s <;> rfl
  · rw [hcons] at hreverse
    simp only [GrepOptions.ofArguments, hd, hreverse]

theorem ofArguments_of_denotes {r : Reading} {o : GrepOptions} (h : r.Denotes o) :
    GrepOptions.ofArguments r.written = .ok o := by
  have hne : r.positionals ≠ [] := by
    rw [h.positionals_eq]
    exact List.cons_ne_nil _ _
  obtain ⟨o', ho', hok⟩ := exists_denotes h.isRead hne
  rwa [h.unique ho']

/-! ## Mistakes -/

/-- What begins with a mistake is refused with it, whatever is remembered. -/
theorem read_of_mistake {args : List Text} {e : GrepArgumentError} (h : Mistake args e)
    (d : GrepDraft) : d.read args = .error e := by
  cases h with
  | letter cs rest hc hminus =>
      rw [GrepDraft.read, ofArgument_unknown_letter hc hminus]
  | name rest hne hswitch hsource hwith =>
      rw [GrepDraft.read, ofArgument_unknown_name hne hswitch hsource hwith]
  | noValue option => rw [GrepDraft.read, ofArgument_source]
  | value rest hcount hmistake => exact read_written_of_countMistake d hcount hmistake rest

theorem ofArguments_of_firstMistake {args : List Text} {e : GrepArgumentError}
    (h : FirstMistake args e) : GrepOptions.ofArguments args = .error e := by
  cases h with
  | after hread hmistake =>
      obtain ⟨d, -, hstep⟩ := remembers_nil.exists_append_items hread
      simp only [GrepOptions.ofArguments, hstep, read_of_mistake hmistake]
  | noPattern hread hpositionals =>
      obtain ⟨d, hd, hreverse, -⟩ := exists_read_written hread
      rw [hpositionals] at hreverse
      simp only [GrepOptions.ofArguments, hd, hreverse]

/-! ## There is a reading or a mistake -/

/-- Letters are those of switches as far as they go. -/
theorem exists_letters (t : Text) :
    ∃ (switches : List GrepSwitch) (rest : Text), t = switches.map letter ++ rest ∧
      ∀ c ∈ rest.head?, c ∉ ['i', 'w'] := by
  induction t with
  | nil => exact ⟨[], [], rfl, nofun⟩
  | cons c cs ih =>
      by_cases hc : c ∈ ['i', 'w']
      · obtain ⟨s, rfl⟩ : ∃ s, letter s = c := by
          rcases (by simpa using hc : c = 'i' ∨ c = 'w') with rfl | rfl
          · exact ⟨.ignoreCase, rfl⟩
          · exact ⟨.wholeWord, rfl⟩
        obtain ⟨switches, rest, rfl, hrest⟩ := ih
        exact ⟨s :: switches, rest, rfl, hrest⟩
      · exact ⟨[], c :: cs, rfl, by simpa using hc⟩

/-- Some arguments begin with an item. -/
def BeginsWithItem (args : List Text) : Prop :=
  ∃ (item : Item) (rest : List Text), args = item.written ++ rest

/-- A count option takes the next argument, and it is a mistake if there is none. -/
theorem item_or_mistake_of_source (option : CountOption) (args : List Text) :
    BeginsWithItem (option.source :: args) ∨ ∃ e, Mistake (option.source :: args) e := by
  cases args with
  | nil => exact Or.inr ⟨_, .noValue option⟩
  | cons value rest => exact Or.inl ⟨.apart option value, rest, rfl⟩

theorem item_or_mistake_of_name {name : Text} (hne : name ≠ []) (args : List Text) :
    BeginsWithItem (('-' :: '-' :: name) :: args) ∨
      ∃ e, Mistake (('-' :: '-' :: name) :: args) e := by
  by_cases hswitch : ∃ s, '-' :: '-' :: name = longForm s
  · obtain ⟨s, hs⟩ := hswitch
    exact Or.inl ⟨.switch s, args, by rw [hs]; rfl⟩
  by_cases hsource : '-' :: '-' :: name = CountOption.long.source
  · rw [hsource]
    exact item_or_mistake_of_source .long args
  by_cases hwith : ∃ value, '-' :: '-' :: name = CountOption.long.sourceWith value
  · obtain ⟨value, hvalue⟩ := hwith
    exact Or.inl ⟨.joined .long value trivial, args, by rw [hvalue]; rfl⟩
  exact Or.inr ⟨_, .name args hne (not_exists.mp hswitch) hsource (not_exists.mp hwith)⟩

theorem item_or_mistake_of_letters {c : Char} (hc : c ≠ '-') (cs : Text) (args : List Text) :
    BeginsWithItem (('-' :: c :: cs) :: args) ∨ ∃ e, Mistake (('-' :: c :: cs) :: args) e := by
  -- what the first letter is that is no switch decides, if there is one
  obtain ⟨switches, rest, ht, hrest⟩ := exists_letters (c :: cs)
  rw [ht]
  cases rest with
  | nil =>
      cases switches with
      | nil => cases ht
      | cons s ss => exact Or.inl ⟨.cluster s ss, args, by rw [List.append_nil]; rfl⟩
  | cons x xs =>
      by_cases hx : x = 'A'
      · subst hx
        cases xs with
        | nil => exact item_or_mistake_of_source (.short switches) args
        | cons v vs =>
            rw [← CountOption.sourceWith_short]
            exact Or.inl ⟨.joined (.short switches) (v :: vs) (List.cons_ne_nil v vs), args, rfl⟩
      · refine Or.inr ⟨_, .letter xs args ?_ ?_⟩
        · have hiw := hrest x rfl
          simp_all
        · rintro rfl
          rwa [← (List.cons.inj ht).1]

/-- Arguments begin with the end of the options, an item or a mistake. -/
theorem item_or_mistake (arg : Text) (args : List Text) (hend : arg ≠ ['-', '-']) :
    BeginsWithItem (arg :: args) ∨ ∃ e, Mistake (arg :: args) e := by
  by_cases hpositional : IsPositional arg
  · exact Or.inl ⟨.positional arg hpositional, args, rfl⟩
  obtain ⟨hminus, hhead⟩ := not_or.mp hpositional
  obtain ⟨t, rfl⟩ : ∃ t, arg = '-' :: t := by
    cases arg with
    | nil => simp at hhead
    | cons c cs => exact ⟨cs, by simpa using hhead⟩
  cases t with
  | nil => exact absurd rfl hminus
  | cons c cs =>
      by_cases hc : c = '-'
      · subst hc
        exact item_or_mistake_of_name (fun hcs => hend (by rw [hcs])) args
      · exact item_or_mistake_of_letters hc cs args

theorem Item.written_ne_nil (item : Item) : item.written ≠ [] := by
  cases item <;> exact List.cons_ne_nil _ _

/-- All arguments are those of a reading whose items are read, or of such items and a mistake. -/
theorem exists_reading_or_mistake (args : List Text) :
    (∃ r : Reading, r.written = args ∧ ∀ item ∈ r.items, item.IsRead) ∨
      ∃ (items : List Item) (rest : List Text) (e : GrepArgumentError),
        args = items.flatMap Item.written ++ rest ∧ (∀ item ∈ items, item.IsRead) ∧
          Mistake rest e := by
  -- on the number of arguments, since an item takes one of them or two
  induction hlength : args.length using Nat.strong_induction_on generalizing args with
  | _ length ih =>
  cases args with
  | nil => exact Or.inl ⟨⟨[], none⟩, rfl, nofun⟩
  | cons arg args =>
      by_cases hend : arg = ['-', '-']
      · exact Or.inl ⟨⟨[], some args⟩, by rw [hend]; rfl, nofun⟩
      rcases item_or_mistake arg args hend with ⟨item, rest, heq⟩ | ⟨e, he⟩
      · rw [heq] at hlength ⊢
        by_cases hread : item.IsRead
        · have hpos := List.length_pos_iff.mpr item.written_ne_nil
          rw [List.length_append] at hlength
          rcases ih rest.length (by omega) rest rfl with
            ⟨r, hr, hmore⟩ | ⟨items, rest', e, hrest, hmore, he⟩
          · refine Or.inl ⟨⟨item :: r.items, r.rest⟩, ?_, List.forall_mem_cons.mpr ⟨hread, hmore⟩⟩
            rw [← hr, Reading.written, Reading.written, List.flatMap_cons, List.append_assoc]
          · have hitems := List.forall_mem_cons.mpr ⟨hread, hmore⟩
            refine Or.inr ⟨item :: items, rest', e, ?_, hitems, he⟩
            rw [hrest, List.flatMap_cons, List.append_assoc]
        · -- an item that is not read has a value, and that value is the mistake
          obtain ⟨value, hnot⟩ := Classical.not_forall.mp hread
          obtain ⟨hvalue, hno⟩ := Classical.not_imp.mp hnot
          obtain ⟨e, he⟩ := (exists_asks_or_countMistake value).resolve_left hno
          exact Or.inr ⟨[], _, e, rfl, nofun, .value rest hvalue he⟩
      · exact Or.inr ⟨[], _, e, rfl, nofun, he⟩

/-- All arguments are those of a reading that stands for some options, or they have a first
mistake. -/
theorem exists_denotes_or_firstMistake (args : List Text) :
    (∃ (r : Reading) (o : GrepOptions), r.written = args ∧ r.Denotes o) ∨
      ∃ e, FirstMistake args e := by
  rcases exists_reading_or_mistake args with ⟨r, rfl, hread⟩ | ⟨items, rest, e, rfl, hread, he⟩
  · by_cases hpositionals : r.positionals = []
    · exact Or.inr ⟨_, .noPattern hread hpositionals⟩
    · obtain ⟨o, ho, -⟩ := exists_denotes hread hpositionals
      exact Or.inl ⟨r, o, rfl, ho⟩
  · exact Or.inr ⟨e, .after hread he⟩

/-! ## What is accepted and what is refused -/

/-- **The arguments that are accepted are those of the grammar**, with the options that their
reading stands for, in any order of the items and for all readings alike.  All other arguments are
refused with their first mistake, and one that is not about usage is a count of too many digits. -/
theorem ofArguments_eq_iff (args : List Text) :
    (∀ o, GrepOptions.ofArguments args = .ok o ↔ ∃ r : Reading, r.written = args ∧ r.Denotes o) ∧
      (∀ e, GrepOptions.ofArguments args = .error e ↔ FirstMistake args e) ∧
      ∀ n, GrepOptions.ofArguments args = .error (.countDigits n) ↔
        ∃ (items : List Item) (item : Item) (rest : List Text) (value : Text) (negative : Bool)
          (digits : List Nat), args = items.flatMap Item.written ++ (item.written ++ rest) ∧
            (∀ i ∈ items, i.IsRead) ∧ item.count? = some value ∧
            IsNumeral value negative digits ∧ digitLimit < digits.length ∧ digits.length = n := by
  -- all arguments are in one of two cases, and what is answered tells the cases apart
  have hok : ∀ o, GrepOptions.ofArguments args = .ok o ↔
      ∃ r : Reading, r.written = args ∧ r.Denotes o := by
    intro o
    constructor
    · intro h
      rcases exists_denotes_or_firstMistake args with ⟨r, o', rfl, ho'⟩ | ⟨e, he⟩
      · cases h.symm.trans (ofArguments_of_denotes ho')
        exact ⟨r, rfl, ho'⟩
      · cases h.symm.trans (ofArguments_of_firstMistake he)
    · rintro ⟨r, rfl, ho⟩
      exact ofArguments_of_denotes ho
  have herror : ∀ e, GrepOptions.ofArguments args = .error e ↔ FirstMistake args e := by
    intro e
    constructor
    · intro h
      rcases exists_denotes_or_firstMistake args with ⟨r, o, rfl, ho⟩ | ⟨e', he'⟩
      · cases h.symm.trans (ofArguments_of_denotes ho)
      · cases h.symm.trans (ofArguments_of_firstMistake he')
        exact he'
    · exact ofArguments_of_firstMistake
  refine ⟨hok, herror, fun n => ?_⟩
  rw [herror]
  constructor
  · rintro ⟨hread, hmistake⟩
    cases hmistake with
    | value rest hcount hvalue =>
        cases hvalue with
        | excess hnumeral hlimit =>
            exact ⟨_, _, rest, _, _, _, rfl, hread, hcount, hnumeral, hlimit, rfl⟩
  · rintro ⟨items, item, rest, value, negative, digits, rfl, hread, hcount, hnumeral, hlimit, rfl⟩
    exact .after hread (.value rest hcount (.excess hnumeral hlimit))

/-- A count option takes two minus signs as its value too. -/
example : GrepOptions.ofArguments ["x", "-iA", "--"] = .error (.usage (.invalidNumber "--")) := by
  decide

end GrepGrammar

end TextShell
