import TextShell.Failure
import TextShell.Text.Case
import TextShell.World

/-!
# Settings

The settings of the shell come from environment variables and are overridden by what the command line
gives, unless that is empty.

## Main Definitions

* `Environment` — the environment variables
* `expandHome` — a path with the home directory in place of a leading tilde
* `Settings` — prompt, history file and log level
* `Settings.ofEnvironment`, `Settings.ofOptions` — the settings of an environment and of options
* `LogName`, `severity` — what the name of a log level names, and its number
-/

namespace TextShell

/-- The environment variables that are set, with their values. -/
abbrev Environment := Text → Option Text

/-- A text without the slashes at its end. -/
def dropEndSlashes (t : Text) : Text :=
  (t.reverse.dropWhile (· == '/')).reverse

/-- The home directories of the accounts that every system has. -/
def accountHomes : List (Text × Text) := [("root", "/root")]

/-- The home directory of a name, that of the user if the name is empty. -/
def homeOf? (env : Environment) (name : Text) : Option Text :=
  if name.isEmpty then env "HOME" else accountHomes.lookup name

/-- A path with a home directory in place of a leading tilde and the name after it. The tilde is kept
if nobody has the name, which must not hold a null character. -/
def expandHome (env : Environment) : Text → Except Failure Text
  | '~' :: cs =>
    let name := cs.takeWhile (· != '/')
    if holdsNull name then .error .nullInPath
    else
      match homeOf? env name with
      | none => .ok ('~' :: cs)
      | some home =>
        let path := dropEndSlashes home ++ cs.dropWhile (· != '/')
        .ok (if path.isEmpty then ['/'] else path)
  | path => .ok path

/-- The settings of the shell. -/
structure Settings where
  /-- What is shown where a line is expected. -/
  prompt : Text
  /-- Where typed lines are kept. -/
  historyFile : Text
  /-- The name of the least severity that is logged. -/
  logLevel : Text
  deriving DecidableEq, Repr

/-- What the command line says about the settings. -/
structure SettingsOptions where
  prompt : Option Text := none
  historyFile : Option Text := none
  logLevel : Option Text := none
  deriving DecidableEq, Repr

namespace Settings

/-- The settings of an environment. -/
def ofEnvironment (env : Environment) : Except Failure Settings := do
  let historyFile ← expandHome env ((env "PIPESH_HISTFILE").getD "~/.pipesh_history")
  return {
    prompt := (env "PIPESH_PROMPT").getD "pipesh> "
    historyFile
    logLevel := ((env "PIPESH_LOG_LEVEL").getD "WARNING").upper }

/-- An option that was given and is not empty. -/
def given (o : Option Text) : Option Text :=
  o.filter fun t => !t.isEmpty

/-- The settings of an environment and of options, which win unless they are empty. -/
def ofOptions (env : Environment) (o : SettingsOptions) : Except Failure Settings := do
  let s ← ofEnvironment env
  let historyFile ←
    match given o.historyFile with
    | some path => expandHome env path
    | none => .ok s.historyFile
  return {
    prompt := (given o.prompt).getD s.prompt
    historyFile
    logLevel := ((given o.logLevel).map Text.upper).getD s.logLevel }

/-- The written form. -/
def shown (s : Settings) : Text :=
  "Config(prompt=" ++ s.prompt.quoted ++ ", history_file=" ++ s.historyFile.quoted ++
    ", log_level=" ++ s.logLevel.quoted ++ ")"

end Settings

/-- What a name names in the log. -/
inductive LogName where
  /-- A severity. -/
  | severity (n : Nat)
  /-- A layout of records. -/
  | layout (text : Text)
  /-- Something else, in its written form. -/
  | table (shown : Text)
  deriving DecidableEq, Repr

/-- The layout of records that name the severity, the source and the message, in three ways. -/
def layouts : List Text :=
  ["%(levelname)s:%(name)s:%(message)s",
    "\x7blevelname\x7d:\x7bname\x7d:\x7bmessage\x7d",
    "$\x7blevelname\x7d:$\x7bname\x7d:$\x7bmessage\x7d"]

/-- The marks of the ways in which a layout refers to a part of a record, with their names. -/
def layoutStyles : List (Text × Text) :=
  [("%", "PercentStyle"), ("\x7b", "StrFormatStyle"), ("$", "StringTemplateStyle")]

/-- The table of the layouts, in its written form. -/
def layoutTable : Text :=
  let entry (style : Text × Text) (layout : Text) : Text :=
    style.1.quoted ++ ": (<class 'logging." ++ style.2 ++ "'>, " ++ layout.quoted ++ ")"
  "\x7b" ++ Text.joinWith ", " (layoutStyles.zipWith entry layouts) ++ "\x7d"

/-- The names in the log. -/
def logNames : List (Text × LogName) :=
  [("NOTSET", .severity 0), ("DEBUG", .severity 10), ("INFO", .severity 20),
    ("WARN", .severity 30), ("WARNING", .severity 30), ("ERROR", .severity 40),
    ("FATAL", .severity 50), ("CRITICAL", .severity 50),
    ("BASIC_FORMAT", .layout (layouts.headD [])), ("_STYLES", .table layoutTable)]

/-- The severity of a warning. -/
def warningSeverity : Nat := 30

/-- The severity with the given name. A name that names nothing counts as that of a warning, and one
that names something else than a severity is refused. -/
def severity (name : Text) : Except Failure Nat :=
  match logNames.lookup name with
  | none => .ok warningSeverity
  | some (.severity n) => .ok n
  | some (.layout text) => .error (.unknownLevel text)
  | some (.table shown) => .error (.notALevel shown)

end TextShell
