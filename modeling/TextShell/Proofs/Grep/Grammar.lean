import TextShell.Grep.Options

/-!
# The grammar of the arguments of `grep`

The arguments are a list of items in any order, and each item is written as one argument or as two
(`Item.written`).  What an item must satisfy by itself is kept in its type: a positional argument
does not look like an option, a cluster has a letter, and a value that touches the letter of its
count option is not empty.  Two minus signs that are no part of an item end the options, and
whatever follows them is positional (`Reading`).

An item whose count is a number that is not negative is read (`Item.IsRead`).  Where the arguments
cannot be read on, they begin with a mistake (`Mistake`), which is one of four: a letter or a name
that there is not, a count option at the end without its value, or a value that is no count.

## Main Definitions

* `IsNumeral`, `Asks`, `CountMistake` — how counts are written, and what is wrong with other values
* `Item`, `Reading` — the arguments, item by item
* `Reading.Denotes` — the options that a reading stands for
* `Mistake`, `FirstMistake` — what arguments that are no options fail with
-/

namespace TextShell.GrepGrammar

/-! ## Counts -/

/-- What may stand in front of the digits of a number, and whether it makes the number negative. -/
inductive IsSign : Text → Bool → Prop
  | none : IsSign [] false
  | plus : IsSign ['+'] false
  | minus : IsSign ['-'] true

/-- A text that writes a number: a sign, which may be missing, and one or more decimal digits of any
script. -/
def IsNumeral (t : Text) (negative : Bool) (digits : List Nat) : Prop :=
  ∃ sign figures : Text, IsSign sign negative ∧ t = sign ++ figures ∧ digits ≠ [] ∧
    figures.map (fun c => digitValue? c.toNat) = digits.map some

/-- A value asks for `n` lines: it writes the number `n`, with no more digits than are read. -/
def Asks (value : Text) (n : Nat) : Prop :=
  ∃ negative digits, IsNumeral value negative digits ∧ digits.length ≤ digitLimit ∧
    integerOf negative digits = n

/-- What is wrong with a value that asks for no number of lines. -/
inductive CountMistake (value : Text) : GrepArgumentError → Prop
  /-- It is no number. -/
  | noNumeral : (∀ negative digits, ¬ IsNumeral value negative digits) →
      CountMistake value (.usage (.invalidNumber value))
  /-- It is a number of too many digits. -/
  | excess {negative : Bool} {digits : List Nat} : IsNumeral value negative digits →
      digitLimit < digits.length → CountMistake value (.countDigits digits.length)
  /-- It is a negative number. -/
  | negative {negative : Bool} {digits : List Nat} : IsNumeral value negative digits →
      digits.length ≤ digitLimit → integerOf negative digits < 0 →
      CountMistake value (.usage (.negativeCount value))

/-! ## Items -/

/-- An argument that does not look like an option: it is a single minus sign or begins with
something else. -/
def IsPositional (t : Text) : Prop :=
  t = ['-'] ∨ t.head? ≠ some '-'

/-- The letter of a switch. -/
def letter : GrepSwitch → Char
  | .ignoreCase => 'i'
  | .wholeWord => 'w'

/-- The long form of a switch. -/
def longForm : GrepSwitch → Text
  | .ignoreCase => "--ignore-case"
  | .wholeWord => "--word-regexp"

/-- The option that asks for a count. -/
inductive CountOption where
  /-- A letter, which the letters of switches may precede. -/
  | short (switches : List GrepSwitch)
  /-- A name. -/
  | long

namespace CountOption

/-- How the option is written. -/
def source : CountOption → Text
  | short switches => '-' :: (switches.map letter ++ ['A'])
  | long => "--after-context"

/-- How the option is written with its value in the same argument. -/
def sourceWith : CountOption → Text → Text
  | short switches, value => (short switches).source ++ value
  | long, value => long.source ++ '=' :: value

theorem source_long : long.source = '-' :: '-' :: "after-context".toList := by decide

theorem sourceWith_short (switches : List GrepSwitch) (value : Text) :
    (short switches).sourceWith value = '-' :: (switches.map letter ++ 'A' :: value) :=
  congrArg ('-' :: ·) (List.append_assoc (switches.map letter) ['A'] value)

theorem sourceWith_long (value : Text) :
    long.sourceWith value = '-' :: '-' :: ("after-context".toList ++ '=' :: value) :=
  congrArg (· ++ '=' :: value) source_long

/-- The values that can stand in the same argument: right after a letter there must be something. -/
def Admits : CountOption → Text → Prop
  | short _, value => value ≠ []
  | long, _ => True

/-- The switches that come with the option. -/
def switches : CountOption → List GrepSwitch
  | short switches => switches
  | long => []

/-- What the option is called in a mistake. -/
def label : CountOption → Text
  | short _ => "A"
  | long => "after-context"

end CountOption

/-- An item of the arguments. -/
inductive Item where
  /-- The pattern or a file. -/
  | positional (value : Text) (isPositional : IsPositional value)
  /-- A switch by its long form. -/
  | switch (s : GrepSwitch)
  /-- One or more switches by their letters. -/
  | cluster (first : GrepSwitch) (rest : List GrepSwitch)
  /-- A count option with its value in the same argument. -/
  | joined (option : CountOption) (value : Text) (admits : option.Admits value)
  /-- A count option with its value in the next argument, whatever that is. -/
  | apart (option : CountOption) (value : Text)

namespace Item

/-- The arguments that make the item. -/
def written : Item → List Text
  | positional value _ => [value]
  | switch s => [longForm s]
  | cluster first rest => ['-' :: (first :: rest).map letter]
  | joined option value _ => [option.sourceWith value]
  | apart option value => [option.source, value]

/-- The pattern or file that the item is. -/
def positional? : Item → Option Text
  | positional value _ => some value
  | _ => none

/-- The switches that the item sets. -/
def switches : Item → List GrepSwitch
  | positional _ _ => []
  | switch s => [s]
  | cluster first rest => first :: rest
  | joined option _ _ => option.switches
  | apart option _ => option.switches

/-- The value that the item gives as a count. -/
def count? : Item → Option Text
  | joined _ value _ => some value
  | apart _ value => some value
  | _ => none

/-- The item's value, if it gives one, asks for a number of lines. -/
def IsRead (item : Item) : Prop :=
  ∀ value ∈ item.count?, ∃ n, Asks value n

end Item

/-! ## Readings -/

/-- Arguments as items, up to the end of the options. -/
structure Reading where
  /-- The items. -/
  items : List Item
  /-- What follows two minus signs that end the options, if there are any. -/
  rest : Option (List Text)

namespace Reading

/-- The arguments of a reading. -/
def written (r : Reading) : List Text :=
  r.items.flatMap Item.written ++
    match r.rest with
    | none => []
    | some rest => ['-', '-'] :: rest

/-- The pattern and the files. -/
def positionals (r : Reading) : List Text :=
  r.items.filterMap Item.positional? ++ r.rest.getD []

/-- The switches that are set. -/
def switches (r : Reading) : List GrepSwitch :=
  r.items.flatMap Item.switches

/-- The values that are given as counts. -/
def counts (r : Reading) : List Text :=
  r.items.filterMap Item.count?

end Reading

/-- The last of some values asks for `n` lines, and `n` is zero if there is no value. -/
def AsksLast (values : List Text) (n : Nat) : Prop :=
  match values.getLast? with
  | none => n = 0
  | some value => Asks value n

/-- Whether options have a switch set. -/
def isSet (o : GrepOptions) : GrepSwitch → Bool
  | .ignoreCase => o.ignoreCase
  | .wholeWord => o.wholeWord

/-- **The options that a reading stands for.** -/
structure Reading.Denotes (r : Reading) (o : GrepOptions) : Prop where
  /-- Every item is read. -/
  isRead : ∀ item ∈ r.items, item.IsRead
  /-- The first positional argument is the pattern, and the others are the files. -/
  positionals_eq : r.positionals = o.pattern :: o.files
  /-- A switch is set if it stands anywhere. -/
  isSet_iff : ∀ s, isSet o s = true ↔ s ∈ r.switches
  /-- The last count is the one that holds. -/
  after : AsksLast r.counts o.after

/-! ## Mistakes -/

/-- Arguments that begin with a mistake. -/
inductive Mistake : List Text → GrepArgumentError → Prop
  /-- A letter that there is not, maybe after the letters of switches. -/
  | letter {switches : List GrepSwitch} {c : Char} (cs : Text) (rest : List Text) :
      c ∉ ['i', 'w', 'A'] → (switches = [] → c ≠ '-') →
      Mistake (('-' :: (switches.map letter ++ c :: cs)) :: rest) (.usage (.unknownFlag [c]))
  /-- A name that there is not, or a value for a name that takes none. -/
  | name {name : Text} (rest : List Text) : name ≠ [] →
      (∀ s, '-' :: '-' :: name ≠ longForm s) → '-' :: '-' :: name ≠ CountOption.long.source →
      (∀ value, '-' :: '-' :: name ≠ CountOption.long.sourceWith value) →
      Mistake (('-' :: '-' :: name) :: rest) (.usage (.unknownFlag ('-' :: '-' :: name)))
  /-- A count option with nothing after it. -/
  | noValue (option : CountOption) :
      Mistake [option.source] (.usage (.missingArgument option.label))
  /-- A value that is no count. -/
  | value {item : Item} {value : Text} {e : GrepArgumentError} (rest : List Text) :
      item.count? = some value → CountMistake value e → Mistake (item.written ++ rest) e

/-- **The first mistake in some arguments.** -/
inductive FirstMistake : List Text → GrepArgumentError → Prop
  /-- Items that are read, and then a mistake. -/
  | after {items : List Item} {rest : List Text} {e : GrepArgumentError} :
      (∀ item ∈ items, item.IsRead) → Mistake rest e →
      FirstMistake (items.flatMap Item.written ++ rest) e
  /-- Nothing but items that are read, and no pattern among them. -/
  | noPattern {r : Reading} : (∀ item ∈ r.items, item.IsRead) → r.positionals = [] →
      FirstMistake r.written (.usage .missingPattern)

end TextShell.GrepGrammar
