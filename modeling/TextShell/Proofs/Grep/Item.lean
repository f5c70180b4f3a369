import Mathlib.Data.List.TakeWhile
import TextShell.Proofs.Grep.Grammar

/-!
# Reading one argument of `grep`

What the program makes of a count and of one argument, said in the words of the grammar.  Counts
come first: exactly the numbers are read as a sign and digits, so a value is either a number of
lines or has a mistake, and the program tells which.  Then the arguments, by their beginning: none
or one minus sign, letters of switches after one, a name after two.
-/

namespace TextShell.GrepGrammar

/-! ## Counts -/

/-- The digits of a text are its characters, each with its value. -/
theorem digitValues?_eq_some_iff {t : Text} {digits : List Nat} :
    digitValues? t = some digits ↔ t.map (fun c => digitValue? c.toNat) = digits.map some := by
  unfold digitValues?
  induction t generalizing digits with
  | nil => cases digits <;> simp
  | cons c cs ih =>
      rw [List.mapM_cons, List.map_cons]
      cases digits with
      | nil => simp [Option.bind_eq_some_iff]
      | cons d ds => simp [Option.bind_eq_some_iff, ← ih]

/-- Digits begin with no sign. -/
theorem splitSign_of_digits {t : Text} {digits : List Nat} (hne : digits ≠ [])
    (ht : t.map (fun c => digitValue? c.toNat) = digits.map some) : splitSign t = (false, t) := by
  obtain ⟨d, ds, rfl⟩ := List.exists_cons_of_ne_nil hne
  unfold splitSign
  split
  · have hplus : digitValue? '+'.toNat = none := by decide
    cases hplus.symm.trans (List.cons.inj ht).1
  · have hminus : digitValue? '-'.toNat = none := by decide
    cases hminus.symm.trans (List.cons.inj ht).1
  · rfl

theorem splitSign_append {sign figures : Text} {negative : Bool} {digits : List Nat}
    (hsign : IsSign sign negative) (hne : digits ≠ [])
    (hfigures : figures.map (fun c => digitValue? c.toNat) = digits.map some) :
    splitSign (sign ++ figures) = (negative, figures) := by
  cases hsign with
  | none => exact splitSign_of_digits hne hfigures
  | plus => rfl
  | minus => rfl

theorem exists_isSign_append (t : Text) :
    ∃ sign, IsSign sign (splitSign t).1 ∧ t = sign ++ (splitSign t).2 := by
  unfold splitSign
  split
  · exact ⟨['+'], .plus, rfl⟩
  · exact ⟨['-'], .minus, rfl⟩
  · exact ⟨[], .none, rfl⟩

/-- Exactly the numbers are read as a sign and digits. -/
theorem signedDigits?_eq_some_iff {t : Text} {negative : Bool} {digits : List Nat} :
    signedDigits? t = some (negative, digits) ↔ IsNumeral t negative digits := by
  constructor
  · intro h
    obtain ⟨sign, hsign, ht⟩ := exists_isSign_append t
    unfold signedDigits? at h
    split at h
    next negative' figures hsplit =>
    rw [hsplit] at hsign ht
    split at h
    · cases h
    · next hne =>
      obtain ⟨ds, hds, heq⟩ := Option.map_eq_some_iff.mp h
      obtain ⟨rfl, rfl⟩ := Prod.mk.inj heq
      have hvalues := digitValues?_eq_some_iff.mp hds
      refine ⟨sign, figures, hsign, ht, ?_, hvalues⟩
      rintro rfl
      exact hne (by simpa using hvalues)
  · rintro ⟨sign, figures, hsign, rfl, hne, hfigures⟩
    have hfne : figures.isEmpty = false := by
      cases figures with
      | nil => exact absurd (List.map_eq_nil_iff.mp hfigures.symm) hne
      | cons c cs => rfl
    simp [signedDigits?, splitSign_append hsign hne hfigures, hfne,
      digitValues?_eq_some_iff.mpr hfigures]

/-- A value is read as the number of lines that it asks for. -/
theorem grepCount_eq_ok_of_asks {value : Text} {n : Nat} (h : Asks value n) :
    grepCount value = .ok n := by
  obtain ⟨negative, digits, hnumeral, hlimit, hn⟩ := h
  simp [grepCount, signedDigits?_eq_some_iff.mpr hnumeral, Nat.not_lt.mpr hlimit, hn]

/-- A value with a mistake is refused with it. -/
theorem grepCount_eq_error_of_countMistake {value : Text} {e : GrepArgumentError}
    (h : CountMistake value e) : grepCount value = .error e := by
  unfold grepCount
  cases h with
  | noNumeral hno =>
      cases hsigned : signedDigits? value with
      | none => rfl
      | some found => exact absurd (signedDigits?_eq_some_iff.mp hsigned) (hno _ _)
  | excess hnumeral hlimit =>
      rw [signedDigits?_eq_some_iff.mpr hnumeral]
      exact if_pos hlimit
  | negative hnumeral hlimit hneg =>
      rw [signedDigits?_eq_some_iff.mpr hnumeral]
      dsimp only
      rw [if_neg (Nat.not_lt.mpr hlimit)]
      split
      · next n hn =>
        rw [hn] at hneg
        exact absurd hneg (Int.not_lt.mpr (Int.natCast_nonneg n))
      · rfl

/-- A value asks for a number of lines, or there is a mistake in it. -/
theorem exists_asks_or_countMistake (value : Text) :
    (∃ n, Asks value n) ∨ ∃ e, CountMistake value e := by
  by_cases hnumeral : ∃ negative digits, IsNumeral value negative digits
  · obtain ⟨negative, digits, hnumeral⟩ := hnumeral
    by_cases hlimit : digits.length ≤ digitLimit
    · by_cases hneg : integerOf negative digits < 0
      · exact Or.inr ⟨_, .negative hnumeral hlimit hneg⟩
      · exact Or.inl ⟨(integerOf negative digits).toNat, negative, digits, hnumeral, hlimit,
          by omega⟩
    · exact Or.inr ⟨_, .excess hnumeral (Nat.lt_of_not_le hlimit)⟩
  · exact Or.inr ⟨_, .noNumeral fun negative digits h => hnumeral ⟨negative, digits, h⟩⟩

/-- A value asks for one number of lines only. -/
theorem Asks.unique {value : Text} {n m : Nat} (h : Asks value n) (h' : Asks value m) : n = m :=
  Except.ok.inj ((grepCount_eq_ok_of_asks h).symm.trans (grepCount_eq_ok_of_asks h'))

theorem AsksLast.unique {values : List Text} {n m : Nat} (h : AsksLast values n)
    (h' : AsksLast values m) : n = m := by
  unfold AsksLast at h h'
  split at h
  · next hlast =>
    rw [hlast] at h'
    exact h.trans h'.symm
  · next value hlast =>
    rw [hlast] at h'
    exact h.unique h'

/-! ## How items are read -/

theorem ofArgument_of_isPositional {t : Text} (h : IsPositional t) :
    GrepItem.ofArgument t = .positional t := by
  unfold GrepItem.ofArgument
  rcases h with rfl | h
  · rfl
  · split
    · exact absurd rfl h
    · exact absurd rfl h
    · exact absurd rfl h
    · rfl

theorem ofArgument_longForm (s : GrepSwitch) :
    GrepItem.ofArgument (longForm s) = .switches [s] := by
  cases s with
  | ignoreCase => decide
  | wholeWord => decide

/-- The letters of switches are taken one after the other. -/
theorem ofCluster_append (before switches : List GrepSwitch) (t : Text) :
    GrepItem.ofCluster before (switches.map letter ++ t) =
      GrepItem.ofCluster (before ++ switches) t := by
  induction switches generalizing before with
  | nil => simp
  | cons s ss ih =>
      have hs : GrepItem.ofCluster before (letter s :: (ss.map letter ++ t)) =
          GrepItem.ofCluster (before ++ [s]) (ss.map letter ++ t) := by
        cases s with
        | ignoreCase => rfl
        | wholeWord => rfl
      rw [List.map_cons, List.cons_append, hs, ih, List.append_assoc]
      rfl

theorem letter_ne_minus (s : GrepSwitch) : letter s ≠ '-' := by
  cases s with
  | ignoreCase => decide
  | wholeWord => decide

/-- One minus sign before something else is a cluster. -/
theorem ofArgument_minus {c : Char} (hc : c ≠ '-') (cs : Text) :
    GrepItem.ofArgument ('-' :: c :: cs) = GrepItem.ofCluster [] (c :: cs) := by
  unfold GrepItem.ofArgument
  split
  · next heq => simp_all
  · next heq => simp_all
  · next heq => simp_all
  · next hno => exact absurd rfl (hno c cs)

/-- The letters of switches after one minus sign are set aside, whatever follows them. -/
theorem ofArgument_letters {switches : List GrepSwitch} {t : Text}
    (ht : switches = [] → ∃ c cs, t = c :: cs ∧ c ≠ '-') :
    GrepItem.ofArgument ('-' :: (switches.map letter ++ t)) = GrepItem.ofCluster switches t := by
  cases switches with
  | nil =>
      obtain ⟨c, cs, rfl, hc⟩ := ht rfl
      exact ofArgument_minus hc cs
  | cons s ss =>
      rw [List.map_cons, List.cons_append, ofArgument_minus (letter_ne_minus s)]
      exact ofCluster_append [] (s :: ss) t

theorem ofArgument_cluster (first : GrepSwitch) (rest : List GrepSwitch) :
    GrepItem.ofArgument ('-' :: (first :: rest).map letter) = .switches (first :: rest) := by
  have hne : first :: rest = [] → ∃ c cs, ([] : Text) = c :: cs ∧ c ≠ '-' := nofun
  have h := ofArgument_letters hne
  rwa [List.append_nil] at h

/-- Letters end in a mistake at the first one that there is not. -/
theorem ofCluster_of_not_mem {before : List GrepSwitch} {c : Char} (hc : c ∉ ['i', 'w', 'A'])
    (cs : Text) : GrepItem.ofCluster before (c :: cs) = .unknown [c] := by
  unfold GrepItem.ofCluster
  split <;> simp_all

theorem ofArgument_unknown_letter {switches : List GrepSwitch} {c : Char}
    (hc : c ∉ ['i', 'w', 'A']) (hminus : switches = [] → c ≠ '-') (cs : Text) :
    GrepItem.ofArgument ('-' :: (switches.map letter ++ c :: cs)) = .unknown [c] := by
  rw [ofArgument_letters fun h => ⟨c, cs, rfl, hminus h⟩, ofCluster_of_not_mem hc]

/-- Two minus signs and more are a name, up to an equals sign if there is one. -/
theorem ofArgument_minus_minus (c : Char) (cs : Text) :
    GrepItem.ofArgument ('-' :: '-' :: c :: cs) =
      GrepItem.ofLong ((c :: cs).takeWhile (· != '='))
        (match (c :: cs).dropWhile (· != '=') with
          | [] => none
          | _ :: value => some value)
        ('-' :: '-' :: c :: cs) := rfl

theorem ofArgument_name {name : Text} (hne : name ≠ []) (h : '=' ∉ name) :
    GrepItem.ofArgument ('-' :: '-' :: name) =
      GrepItem.ofLong name none ('-' :: '-' :: name) := by
  obtain ⟨c, cs, rfl⟩ := List.exists_cons_of_ne_nil hne
  have hall : ∀ x ∈ c :: cs, (x != '=') = true := fun x hx =>
    bne_iff_ne.mpr (ne_of_mem_of_not_mem hx h)
  rw [ofArgument_minus_minus, List.takeWhile_eq_self_iff.mpr hall,
    List.dropWhile_eq_nil_iff.mpr hall]

theorem ofArgument_name_value {name : Text} (h : '=' ∉ name) (value : Text) :
    GrepItem.ofArgument ('-' :: '-' :: (name ++ '=' :: value)) =
      GrepItem.ofLong name (some value) ('-' :: '-' :: (name ++ '=' :: value)) := by
  have hall : ∀ x ∈ name, (x != '=') = true := fun x hx =>
    bne_iff_ne.mpr (ne_of_mem_of_not_mem hx h)
  obtain ⟨c, cs, hcons⟩ : ∃ c cs, name ++ '=' :: value = c :: cs :=
    List.exists_cons_of_ne_nil (by simp)
  rw [hcons, ofArgument_minus_minus, ← hcons, List.takeWhile_append_of_pos hall,
    List.dropWhile_append_of_pos hall]
  simp

theorem ofArgument_source (option : CountOption) :
    GrepItem.ofArgument option.source = .countNext option.switches option.label := by
  cases option with
  | short switches => exact ofArgument_letters fun _ => ⟨'A', [], rfl, by decide⟩
  | long => decide

theorem ofArgument_sourceWith {option : CountOption} {value : Text} (h : option.Admits value) :
    GrepItem.ofArgument (option.sourceWith value) = .count option.switches value := by
  cases option with
  | short switches =>
      obtain ⟨c, cs, rfl⟩ := List.exists_cons_of_ne_nil h
      have hletter : switches = [] → ∃ x xs, 'A' :: c :: cs = x :: xs ∧ x ≠ '-' :=
        fun _ => ⟨'A', c :: cs, rfl, by decide⟩
      rw [CountOption.sourceWith_short, ofArgument_letters hletter]
      rfl
  | long =>
      rw [CountOption.sourceWith_long, ofArgument_name_value (by decide)]
      rfl

theorem ofArgument_unknown_name {name : Text} (hne : name ≠ [])
    (hswitch : ∀ s, '-' :: '-' :: name ≠ longForm s)
    (hsource : '-' :: '-' :: name ≠ CountOption.long.source)
    (hwith : ∀ value, '-' :: '-' :: name ≠ CountOption.long.sourceWith value) :
    GrepItem.ofArgument ('-' :: '-' :: name) = .unknown ('-' :: '-' :: name) := by
  by_cases hmem : '=' ∈ name
  · -- with a value only the name of the count option would do
    obtain ⟨key, value, rfl, hkey⟩ := List.eq_append_cons_of_mem hmem
    rw [ofArgument_name_value hkey, GrepItem.ofLong, if_neg, Option.isSome_some, if_pos rfl]
    rintro rfl
    exact hwith value rfl
  · rw [ofArgument_name hne hmem, GrepItem.ofLong, if_neg, Option.isSome_none,
      if_neg Bool.false_ne_true, if_neg, if_neg]
    · rintro rfl
      exact hswitch .wholeWord rfl
    · rintro rfl
      exact hswitch .ignoreCase rfl
    · rintro rfl
      exact hsource rfl

end TextShell.GrepGrammar
