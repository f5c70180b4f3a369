import TextShell.Text.Integer
import TextShell.Text.Quoted

/-!
# Options of `grep`

The arguments of `grep` are options, in any order and in between, and at least one other argument: the
pattern, then files. Short options may share a minus sign, and a count may touch its option. After two
minus signs everything is taken literally.

## Main Definitions

* `GrepOptions` — what the arguments say
* `GrepUsageError`, `GrepArgumentError` — what may be wrong with them
* `GrepItem`, `GrepItem.ofArgument` — how one argument is read
* `GrepOptions.ofArguments` — the options of some arguments
-/

namespace TextShell

/-- What the arguments of `grep` say. -/
structure GrepOptions where
  /-- The pattern to look for. -/
  pattern : Text
  /-- The files to look in; the input if there are none. -/
  files : List Text := []
  /-- Whether letters match in either case. -/
  ignoreCase : Bool := false
  /-- Whether only whole words match. -/
  wholeWord : Bool := false
  /-- How many lines are shown after each line that matches. -/
  after : Nat := 0
  deriving DecidableEq, Repr

/-- The written form of a truth value. -/
def truth (b : Bool) : Text :=
  if b then "True" else "False"

/-- The written form. -/
def GrepOptions.shown (o : GrepOptions) : Text :=
  "GrepOptions(pattern=" ++ o.pattern.quoted ++ ", files=" ++ Text.quotedList o.files ++
    ", ignore_case=" ++ truth o.ignoreCase ++ ", whole_word=" ++ truth o.wholeWord ++
    ", after_context=" ++ Text.ofNat o.after ++ ")"

/-- A mistake in the arguments of `grep`. -/
inductive GrepUsageError where
  /-- An option that there is not, as a whole word or as a letter. -/
  | unknownFlag (flag : Text)
  /-- A count that is no number. -/
  | invalidNumber (value : Text)
  /-- A count below zero. -/
  | negativeCount (value : Text)
  /-- An option whose count is missing. -/
  | missingArgument (option : Text)
  /-- No pattern. -/
  | missingPattern
  deriving DecidableEq, Repr

namespace GrepUsageError

/-- The text that a mistake is about. -/
def detail : GrepUsageError → Text
  | .unknownFlag flag => flag
  | .invalidNumber value => value
  | .negativeCount value => value
  | .missingArgument option => option
  | .missingPattern => []

/-- The name of the kind of mistake. -/
def kind : GrepUsageError → Text
  | .unknownFlag _ => "UNKNOWN_FLAG"
  | .invalidNumber _ => "INVALID_NUMBER"
  | .negativeCount _ => "NEGATIVE_COUNT"
  | .missingArgument _ => "MISSING_ARGUMENT"
  | .missingPattern => "MISSING_PATTERN"

/-- The wording. -/
def message : GrepUsageError → Text
  | .unknownFlag flag => "invalid option -- '" ++ flag ++ "'"
  | .invalidNumber value => "-A argument is not a number: " ++ value
  | .negativeCount value => "-A argument < 0: " ++ value
  | .missingArgument option => "option requires an argument -- '" ++ option ++ "'"
  | .missingPattern => "missing pattern"

/-- The written form. -/
def shown (e : GrepUsageError) : Text :=
  "GrepUsageError(" ++ e.kind ++ ", " ++ e.detail.quoted ++ ")"

end GrepUsageError

/-- Why the arguments of `grep` are not accepted. -/
inductive GrepArgumentError where
  /-- They hold a mistake. -/
  | usage (e : GrepUsageError)
  /-- A count has too many digits to be read. -/
  | countDigits (digits : Nat)
  deriving DecidableEq, Repr

/-- The number of lines that a count option asks for. -/
def grepCount (value : Text) : Except GrepArgumentError Nat :=
  match signedDigits? value with
  | none => .error (.usage (.invalidNumber value))
  | some (negative, digits) =>
    if digits.length > digitLimit then .error (.countDigits digits.length)
    else
      match integerOf negative digits with
      | .ofNat n => .ok n
      | .negSucc _ => .error (.usage (.negativeCount value))

/-- A switch. -/
inductive GrepSwitch where
  | ignoreCase
  | wholeWord
  deriving DecidableEq, Repr

/-- One argument of `grep`. -/
inductive GrepItem where
  /-- The pattern or a file. -/
  | positional (value : Text)
  /-- The end of the options. -/
  | terminator
  /-- Switches. -/
  | switches (switches : List GrepSwitch)
  /-- Switches, then a count that is attached to its option. -/
  | count (switches : List GrepSwitch) (value : Text)
  /-- Switches, then the option, of the given name, whose count is the next argument. -/
  | countNext (switches : List GrepSwitch) (option : Text)
  /-- Something that is no option. -/
  | unknown (flag : Text)
  deriving DecidableEq, Repr

namespace GrepItem

/-- Short options that share a minus sign, after the switches that come before them. A count option
takes the rest of its argument. -/
def ofCluster (before : List GrepSwitch) : Text → GrepItem
  | [] => .switches before
  | 'i' :: cs => ofCluster (before ++ [.ignoreCase]) cs
  | 'w' :: cs => ofCluster (before ++ [.wholeWord]) cs
  | ['A'] => .countNext before "A"
  | 'A' :: c :: cs => .count before (c :: cs)
  | c :: _ => .unknown [c]

/-- An option of two minus signs, by its name and, after an equals sign, its value. -/
def ofLong (name : Text) (value : Option Text) (whole : Text) : GrepItem :=
  if name = "after-context".toList then
    match value with
    | some v => .count [] v
    | none => .countNext [] name
  else if value.isSome then .unknown whole
  else if name = "ignore-case".toList then .switches [.ignoreCase]
  else if name = "word-regexp".toList then .switches [.wholeWord]
  else .unknown whole

/-- How one argument is read as long as options are expected. -/
def ofArgument : Text → GrepItem
  | ['-', '-'] => .terminator
  | '-' :: '-' :: cs =>
    let name := cs.takeWhile (· != '=')
    let value :=
      match cs.dropWhile (· != '=') with
      | [] => none
      | _ :: v => some v
    ofLong name value ('-' :: '-' :: cs)
  | '-' :: c :: cs => ofCluster [] (c :: cs)
  | arg => .positional arg

end GrepItem

/-- What was read of the arguments so far. -/
structure GrepDraft where
  /-- Arguments that are no options, the latest first. -/
  positionals : List Text := []
  ignoreCase : Bool := false
  wholeWord : Bool := false
  after : Nat := 0

namespace GrepDraft

/-- The draft after a switch. -/
def flip (d : GrepDraft) : GrepSwitch → GrepDraft
  | .ignoreCase => { d with ignoreCase := true }
  | .wholeWord => { d with wholeWord := true }

/-- The draft after switches. -/
def flipAll (d : GrepDraft) (switches : List GrepSwitch) : GrepDraft :=
  switches.foldl flip d

/-- The draft after a count. -/
def count (d : GrepDraft) (value : Text) : Except GrepArgumentError GrepDraft :=
  (grepCount value).map fun n => { d with after := n }

/-- Reads arguments from left to right up to the first mistake. -/
def read (d : GrepDraft) : List Text → Except GrepArgumentError GrepDraft
  | [] => .ok d
  | arg :: args =>
    match GrepItem.ofArgument arg with
    | .positional value => read { d with positionals := value :: d.positionals } args
    | .terminator => .ok { d with positionals := args.reverse ++ d.positionals }
    | .switches switches => read (d.flipAll switches) args
    | .count switches value =>
      match (d.flipAll switches).count value with
      | .ok d' => read d' args
      | .error e => .error e
    | .countNext switches option =>
      match args with
      | [] => .error (.usage (.missingArgument option))
      | value :: rest =>
        match (d.flipAll switches).count value with
        | .ok d' => read d' rest
        | .error e => .error e
    | .unknown flag => .error (.usage (.unknownFlag flag))

end GrepDraft

/-- The options of some arguments, or the first mistake in them. -/
def GrepOptions.ofArguments (args : List Text) : Except GrepArgumentError GrepOptions :=
  match GrepDraft.read {} args with
  | .error e => .error e
  | .ok d =>
    match d.positionals.reverse with
    | [] => .error (.usage .missingPattern)
    | pattern :: files => .ok ⟨pattern, files, d.ignoreCase, d.wholeWord, d.after⟩

end TextShell
