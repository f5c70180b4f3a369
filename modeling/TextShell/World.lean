import TextShell.Text.Quoted
import TextShell.Text.Utf8

/-!
# The world outside

The shell reads files, launches programs and asks for the working directory. A world says what it
finds there.

## Main Definitions

* `FileError` — why a file cannot be opened
* `FileEntry` — what is found under a path
* `Program`, `ProgramResult` — what a program does
* `World` — files, programs and the working directory
-/

namespace TextShell

/-- Why a file cannot be opened: the number of the error and the system's wording for it. -/
structure FileError where
  code : Nat
  reason : Text
  deriving DecidableEq, Repr

namespace FileError

/-- There is no such file. -/
def notFound : FileError := ⟨2, "No such file or directory"⟩

/-- The kinds of errors that are told apart. -/
inductive Kind where
  | notFound
  | isDirectory
  | notDirectory
  | permission
  | other
  deriving DecidableEq, Repr

/-- The kind of an error, by its number. -/
def kind (e : FileError) : Kind :=
  if e.code = 1 ∨ e.code = 13 then .permission
  else if e.code = 2 then .notFound
  else if e.code = 20 then .notDirectory
  else if e.code = 21 then .isDirectory
  else .other

/-- The full wording of an error about a path. -/
def full (e : FileError) (path : Text) : Text :=
  "[Errno " ++ Text.ofNat e.code ++ "] " ++ e.reason ++ ": " ++ path.quoted

/-- The wording that commands use. -/
def message (e : FileError) (path : Text) : Text :=
  match e.kind with
  | .notFound => "No such file or directory"
  | .isDirectory => "Is a directory"
  | .permission => "Permission denied"
  | .notDirectory | .other => e.full path

end FileError

/-- What is found under a path. -/
inductive FileEntry where
  | content (bytes : Bytes)
  | failure (e : FileError)
  deriving DecidableEq, Repr

/-- What a program that ran leaves behind. -/
structure ProgramResult where
  /-- What it wrote to its standard output. -/
  output : Bytes
  /-- What it wrote to its standard error output. -/
  errors : Bytes
  /-- Its exit status. -/
  status : Int
  deriving DecidableEq, Repr

/-- What becomes of the launch of a program. -/
inductive Launch where
  /-- It ran to its end. -/
  | finished (r : ProgramResult)
  /-- It could not be started. -/
  | refused (reason : Text)
  /-- The user interrupted it. -/
  | interrupted
  deriving DecidableEq, Repr

/-- A program: what becomes of its launch with given arguments and standard input. -/
abbrev Program := List Text → Bytes → Launch

/-- Files, programs and the working directory. -/
structure World where
  /-- What stands under a path, if anything does. -/
  file : Text → Option FileEntry
  /-- The program of a name. -/
  program : Text → Program
  /-- The working directory. It is taken to exist: asking for one that was removed would fail. -/
  workingDirectory : Text

namespace World

/-- What opening a path for reading finds. The empty path is never there. -/
def entry (w : World) (path : Text) : FileEntry :=
  if path.isEmpty then .failure .notFound else (w.file path).getD (.failure .notFound)

/-- Whether using a path in any way fails. -/
def isBroken (w : World) (path : Text) : Bool :=
  match w.file path with
  | some (.failure _) => true
  | _ => false

/-- The world after a path was given an entry. -/
def put (w : World) (path : Text) (e : FileEntry) : World :=
  { w with file := fun p => if p = path then some e else w.file p }

/-- The world after a path was cleared. -/
def remove (w : World) (path : Text) : World :=
  { w with file := fun p => if p = path then none else w.file p }

end World

/-- Whether a text holds the null character, which neither a path nor an argument may. -/
def holdsNull (t : Text) : Bool :=
  t.contains '\x00'

end TextShell
