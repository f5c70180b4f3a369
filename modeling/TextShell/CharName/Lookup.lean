import TextShell.CharName.Aliases
import TextShell.CharName.Alphabets
import TextShell.CharName.Asian
import TextShell.CharName.Hangul
import TextShell.CharName.Historic
import TextShell.CharName.Musical
import TextShell.CharName.Pictographs
import TextShell.CharName.Signs
import TextShell.CharName.Syllabaries
import TextShell.CharName.Symbols
import TextShell.Text.CodeTable

/-!
# Names of characters

Most characters have a name that is listed. Others are named by their number, and Hangul syllables by
their sounds. Capitals and small letters count as one in a listed name, but not in the names of
syllables and of unified ideographs.

## Main Definitions

* `CharName.find` — the place of a name in a list
* `CharName.numbered?` — the character that is named by its number
* `charNamed?` — the character with a given name
-/

namespace TextShell

namespace CharName

/-- Every list of names. -/
def pages : List String :=
  [alphabetNames, syllabaryNames, symbolNames, asianNames, historicNames, signNames, musicalNames,
    pictographNames, aliasNames]

/-- The value of hexadecimal digits. -/
def hexNumber (digits : Text) : Nat :=
  Text.valueOf 16 (digits.filterMap Text.hexValue?)

/-- The code point whose name consists of the words `target`, in a list whose next entry is for the code
point `code` and follows a name of the words `before`. An entry is a name, of which the first digit says
how many words it has in common with the name before it, or after an equals sign the code point of the
next name. Other names follow each other without a gap. -/
def find (target : List Text) (code : Nat) (before : List Text) : List Text → Option Nat
  | [] => none
  | [] :: entries => find target code before entries
  | (c :: rest) :: entries =>
    if c = '=' then find target (hexNumber rest) before entries
    else
      let words := before.take (hexNumber [c]) ++ Text.pieces ' ' rest
      if words = target then some code else find target (code + 1) words entries

/-- The code point of a name in a list whose entries are separated by semicolons and line feeds. -/
def findIn (name : Text) (page : String) : Option Nat :=
  find (name.pieces ' ') 0 [] (Text.piecesBy (fun c => c == ';' || c == '\n') page.toList)

/-- The kinds of characters that are named by their numbers, with their code points. -/
def numberedKinds : List (Text × CodeTable) := [
  ("CJK COMPATIBILITY IDEOGRAPH-", ⟨[(0xf900, 0xfa6d), (0xfa70, 0xfad9), (0x2f800, 0x2fa1d)]⟩),
  ("KHITAN SMALL SCRIPT CHARACTER-", ⟨[(0x18b00, 0x18cd5)]⟩),
  ("NUSHU CHARACTER-", ⟨[(0x1b170, 0x1b2fb)]⟩)]

/-- The code points of the unified ideographs. -/
def ideographs : CodeTable where
  ranges := [
    (0x3400, 0x4dbf), (0x4e00, 0x9fff), (0x20000, 0x2a6df), (0x2a700, 0x2b738), (0x2b740, 0x2b81d),
    (0x2b820, 0x2cea1), (0x2ceb0, 0x2ebe0), (0x30000, 0x3134a)]

/-- What follows a given beginning of a text. -/
def after? (start t : Text) : Option Text :=
  if start.isPrefixOf t then some (t.drop start.length) else none

/-- A hexadecimal digit that is no small letter. -/
def isCapitalHex (c : Char) : Bool :=
  c.isDigit || decide ('A' ≤ c) && decide (c ≤ 'F')

/-- The number that capital hexadecimal digits write, from `low` to `high` of them. -/
def number? (low high : Nat) (digits : Text) : Option Nat :=
  if low ≤ digits.length ∧ digits.length ≤ high ∧ digits.all isCapitalHex then
    some (hexNumber digits)
  else none

/-- The character that is named by its kind and its number, written without needless zeros. -/
def numbered? (name : Text) : Option Nat :=
  numberedKinds.findSome? fun (kind, table) => do
    let digits ← after? kind name
    let code ← number? 4 5 digits
    if table.contains code ∧ (digits.length = 4 ∨ 0x10000 ≤ code) then some code else none

/-- The unified ideograph of a number, which may be filled up to five digits. -/
def ideograph? (digits : Text) : Option Nat := do
  let code ← number? 4 5 digits
  if ideographs.contains code then some code else none

/-- A text with its ASCII letters as capitals. -/
def capitals (t : Text) : Text :=
  t.map Char.toUpper

end CharName

/-- The code point of the character with the given name. -/
def charNamed? (name : Text) : Option Nat :=
  match CharName.after? "HANGUL SYLLABLE " name, CharName.after? "CJK UNIFIED IDEOGRAPH-" name with
  | some sounds, _ => CharName.syllable? sounds
  | none, some digits => CharName.ideograph? digits
  | none, none =>
    let name := CharName.capitals name
    CharName.numbered? name <|> CharName.pages.findSome? (CharName.findIn name)

end TextShell
