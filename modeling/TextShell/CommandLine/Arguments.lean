import TextShell.CommandLine.Similarity
import TextShell.Settings
import TextShell.Text.ControlSequence

/-!
# Arguments of the program

The program takes options, in any order and in between, and at most one script. An option is given by
its whole name; its value follows it as the next argument, after an equals sign or, if the name is one
letter, at once. The last value of an option counts. After two minus signs everything else is taken
literally.

## Main Definitions

* `ProgramOption` — the options
* `UsageError` — what may be wrong with the arguments
* `ProgramItem`, `ProgramItem.ofArgument` — how one argument is read
* `Request`, `Request.ofArguments` — what the arguments ask for
-/

namespace TextShell

/-- The options of the program. -/
inductive ProgramOption where
  | version
  | command
  | logLevel
  | prompt
  | historyFile
  | help
  deriving DecidableEq, Repr

namespace ProgramOption

/-- Every option. -/
def all : List ProgramOption := [.version, .command, .logLevel, .prompt, .historyFile, .help]

/-- The name. -/
def name : ProgramOption → Text
  | .version => "--version"
  | .command => "-c"
  | .logLevel => "--log-level"
  | .prompt => "--prompt"
  | .historyFile => "--history-file"
  | .help => "--help"

/-- Whether a value belongs to the option. -/
def takesValue : ProgramOption → Bool
  | .version | .help => false
  | .command | .logLevel | .prompt | .historyFile => true

/-- Whether the name is a word, after two minus signs. -/
def isLong (o : ProgramOption) : Bool :=
  Text.startsWith "--" o.name

/-- The names that are words. -/
def longNames : List Text :=
  (all.filter isLong).map name

/-- The option of a name. -/
def ofName? (name : Text) : Option ProgramOption :=
  all.find? fun o => o.name == name

end ProgramOption

/-- A mistake in the arguments of the program. -/
inductive UsageError where
  /-- An option that there is not. -/
  | unknownOption (name : Text)
  /-- An option without its value. -/
  | missingValue (name : Text)
  /-- A value for an option that takes none. -/
  | unexpectedValue (name : Text)
  /-- A log level that there is not. -/
  | unknownLevel (value : Text)
  /-- More arguments than a script. -/
  | extraArguments (args : List Text)
  deriving DecidableEq, Repr

/-- The log levels that may be asked for. -/
def levelNames : List Text := ["DEBUG", "INFO", "WARNING", "ERROR"]

namespace UsageError

/-- A hint at the options that may have been meant. -/
def hint (name : Text) : Text :=
  match similarTexts name (if Text.startsWith "--" name then ProgramOption.longNames else []) with
  | [] => []
  | [t] => " Did you mean " ++ t.quoted ++ "?"
  | ts => " (Did you mean one of: " ++ Text.joinWith ", " (ts.map Text.quoted) ++ "?)"

/-- The wording. -/
def message : UsageError → Text
  | .unknownOption name => "No such option " ++ name.quoted ++ "." ++ hint name
  | .missingValue name => "Option " ++ name.quoted ++ " requires an argument."
  | .unexpectedValue name => "Option " ++ name.quoted ++ " does not take a value."
  | .unknownLevel value =>
    "Invalid value for '--log-level': " ++ value.quoted ++ " is not one of " ++
      Text.joinWith ", " (levelNames.map fun n => n.asciiLower.quoted) ++ "."
  | .extraArguments args =>
    "Got unexpected extra argument" ++ (if args.length = 1 then ([] : Text) else "s") ++ " (" ++
      Text.joinWith " " args ++ ")"

/-- How the program is used, in one line. -/
def usageLine : Text := "Usage: pipesh [OPTIONS] [SCRIPT]\n"

/-- Whether the usage is shown with the mistake. A mistake about a value stands alone. -/
def showsUsage : UsageError → Bool
  | .missingValue _ | .unexpectedValue _ => false
  | _ => true

/-- What the user is told about a mistake. Control sequences in the arguments are left out. -/
def report (e : UsageError) : Text :=
  (if e.showsUsage then usageLine ++ "Try 'pipesh --help' for help.\n\n" else []) ++
    Text.withoutSequences ("Error: " ++ e.message) ++ ['\n']

end UsageError

/-- How one argument of the program is read. -/
inductive ProgramItem where
  /-- The end of the options. -/
  | terminator
  /-- No option. -/
  | positional (value : Text)
  /-- An option without a value. -/
  | flag (o : ProgramOption)
  /-- An option with a value. -/
  | valued (o : ProgramOption) (value : Text)
  /-- An option whose value is the next argument. -/
  | valueNext (o : ProgramOption)
  /-- A mistake. -/
  | mistake (e : UsageError)
  deriving DecidableEq, Repr

namespace ProgramItem

/-- An option by its name, with the value that is attached to it, if any. -/
def ofName (name : Text) (value : Option Text) : ProgramItem :=
  match ProgramOption.ofName? name with
  | none => .mistake (.unknownOption name)
  | some o =>
    match o.takesValue, value with
    | true, some v => .valued o v
    | true, none => .valueNext o
    | false, some _ => .mistake (.unexpectedValue name)
    | false, none => .flag o

/-- How one argument is read as long as options are expected. -/
def ofArgument : Text → ProgramItem
  | ['-', '-'] => .terminator
  | '-' :: '-' :: cs =>
    let name := '-' :: '-' :: cs.takeWhile (· != '=')
    match cs.dropWhile (· != '=') with
    | [] => ofName name none
    | _ :: value => ofName name (some value)
  | ['-', c] => ofName ['-', c] none
  | '-' :: c :: cs => ofName ['-', c] (some cs)
  | arg => .positional arg

end ProgramItem

/-- Options with their values, and the other arguments, both in order. -/
structure Given where
  options : List (ProgramOption × Text) := []
  positionals : List Text := []
  deriving DecidableEq, Repr

namespace Given

/-- Reads arguments up to the first mistake. -/
def ofArguments : List Text → Except UsageError Given
  | [] => .ok {}
  | arg :: args =>
    match ProgramItem.ofArgument arg with
    | .terminator => .ok { positionals := args }
    | .positional value =>
      (ofArguments args).map fun g => { g with positionals := value :: g.positionals }
    | .flag o => (ofArguments args).map fun g => { g with options := (o, []) :: g.options }
    | .valued o value =>
      (ofArguments args).map fun g => { g with options := (o, value) :: g.options }
    | .valueNext o =>
      match args with
      | [] => .error (.missingValue o.name)
      | value :: rest =>
        (ofArguments rest).map fun g => { g with options := (o, value) :: g.options }
    | .mistake e => .error e

/-- The value of an option, the last one if it was given several times. -/
def value? (g : Given) (o : ProgramOption) : Option Text :=
  (g.options.reverse.find? fun x => x.1 == o).map Prod.snd

/-- The option among `--version` and `--help` that was given first. -/
def notice? (g : Given) : Option ProgramOption :=
  (g.options.map Prod.fst).find? fun o => !o.takesValue

end Given

/-- What the shell is to run, and with which settings. -/
structure Invocation where
  /-- A line to run. -/
  command : Option Text
  /-- A script to run. -/
  script : Option Text
  /-- The settings. -/
  settings : SettingsOptions
  deriving DecidableEq, Repr

/-- What the arguments of the program ask for. -/
inductive Request where
  | showVersion
  | showHelp
  | start (i : Invocation)
  deriving DecidableEq, Repr

namespace Request

/-- The log level of a name in either case. -/
def level (value : Text) : Except UsageError Text :=
  match levelNames.find? fun n => n.asciiLower == value.asciiLower with
  | some n => .ok n
  | none => .error (.unknownLevel value)

/-- The request of some arguments. A mistake in an option comes before `--version` and `--help`, and
these before other mistakes. -/
def ofArguments (args : List Text) : Except UsageError Request := do
  let g ← Given.ofArguments args
  match g.notice? with
  | some .version => return .showVersion
  | some _ => return .showHelp
  | none =>
    let logLevel ← (g.value? .logLevel).mapM level
    match g.positionals with
    | _ :: extra :: more => throw (.extraArguments (extra :: more))
    | positionals =>
      return .start {
        command := g.value? .command
        script := positionals.head?
        settings := { prompt := g.value? .prompt, historyFile := g.value? .historyFile, logLevel } }

end Request

end TextShell
