import TextShell.Pattern.Reading
import TextShell.Text.Case
import TextShell.CharName.Lookup

/-!
# Escapes

A backslash gives the character after it another meaning: a control character, a character by number
or name, a class of characters, a place in the text or what a group matched.

## Main Definitions

* `readClassEscape` — an escape inside a bracketed set
* `readEscape` — an escape elsewhere
-/

namespace TextShell

/-- The control character, or the backslash, that a letter stands for. -/
def controlEscape? : Char → Option Nat
  | 'a' => some 0x07
  | 'b' => some 0x08
  | 'f' => some 0x0c
  | 'n' => some 0x0a
  | 'r' => some 0x0d
  | 't' => some 0x09
  | 'v' => some 0x0b
  | '\\' => some 0x5c
  | _ => none

/-- The class of characters that a letter stands for; a capital stands for those outside. -/
def categoryEscape? : Char → Option ClassItem
  | 'd' => some (.category .digit false)
  | 'D' => some (.category .digit true)
  | 's' => some (.category .blank false)
  | 'S' => some (.category .blank true)
  | 'w' => some (.category .word false)
  | 'W' => some (.category .word true)
  | _ => none

/-- The place in the text that a letter stands for. -/
def anchorEscape? : Char → Option Anchor
  | 'A' => some .textStart
  | 'b' => some .boundary
  | 'B' => some .notBoundary
  | 'Z' => some .textEnd
  | _ => none

/-- An octal digit. -/
def isOctal (c : Char) : Bool :=
  '0' ≤ c && c ≤ '7'

/-- The number that digits of a base write. -/
def numberOf (base : Nat) (digits : Text) : Nat :=
  Text.valueOf base (digits.filterMap Text.hexValue?)

/-- The greatest octal number that an escape may write. -/
def octalLimit : Nat := 0o377

/-- The greatest code point. -/
def lastCode : Nat := 0x10ffff

/-- The greatest number that is taken for a character at all. -/
def lastCharacterNumber : Nat := 0x7fffffff

namespace Reading

/-- Reads the `n` hexadecimal digits after the letter of an escape. -/
def readHex (letter : Char) (n : Nat) : Reading Nat := do
  let digits ← takeUpTo n fun c => (Text.hexValue? c).isSome
  if digits.length ≠ n then
    failBack (digits.length + 2) (.incompleteEscape (['\\', letter] ++ digits))
  let code := numberOf 16 digits
  if code > lastCharacterNumber then exceed .characterNumber
  if code > lastCode then failBack (n + 2) (.badEscape (['\\', letter] ++ digits))
  return code

/-- Reads the name of a character between braces. -/
def readCharName : Reading Nat := do
  if !(← accept '\x7b') then failBack 0 .missingBrace
  let name ← readName '\x7d' .character
  match charNamed? name with
  | some code => return code
  | none => failBack (name.length + 4) (.unknownCharacter name)

/-- Reads a character by number or name, if the letter of the escape announces one. -/
def readCode? (letter : Char) : Reading (Option Nat) :=
  match letter with
  | 'x' => return some (← readHex letter 2)
  | 'u' => return some (← readHex letter 4)
  | 'U' => return some (← readHex letter 8)
  | 'N' => return some (← readCharName)
  | _ => return none

/-- Reads up to two more octal digits after a first one, for a number up to `octalLimit`. -/
def readOctal (first : Char) : Reading Nat := do
  let digits := first :: (← takeUpTo 2 isOctal)
  let code := numberOf 8 digits
  if code > octalLimit then failBack (digits.length + 1) (.octalTooLarge ('\\' :: digits))
  return code

/-- The code point of an escaped character without a meaning of its own. ASCII letters and digits
are kept for meanings to come. -/
def plainEscape (c : Char) : Reading Nat := do
  if c.isAlpha || c.isDigit then failBack 2 (.badEscape ['\\', c])
  return c.toNat

/-- Reads an escape inside a bracketed set. -/
def readClassEscape (c : Char) : Reading ClassItem := do
  if let some code := controlEscape? c then return .code code
  if let some item := categoryEscape? c then return item
  if let some code ← readCode? c then return .code code
  if isOctal c then return .code (← readOctal c)
  return .code (← plainEscape c)

/-- Fails unless the group may be referred to where the reading stands: a look-behind must not refer
to a group that it opened itself. -/
def checkBound (g : Nat) : Reading Unit := do
  let s ← get
  if let some bound := s.bound then
    if (s.groups.closed? g).isNone then failBack 0 .openGroup
    if bound ≤ g then failBack 0 .groupOfSameLookBehind

/-- Reads a number that begins with a digit other than zero: an octal number if it has three octal
digits, and otherwise a reference to a group of one or two digits. -/
def readNumber (first : Char) : Reading Pattern := do
  match ← peek with
  | some (.plain second) =>
    if !second.isDigit then referTo [first]
    else
      let _ ← nextToken
      match ← peek with
      | some (.plain third) =>
        if isOctal first && isOctal second && isOctal third then
          let _ ← nextToken
          let digits := [first, second, third]
          let code := numberOf 8 digits
          if code > octalLimit then failBack 4 (.octalTooLarge ('\\' :: digits))
          return .char (.code code)
        else referTo [first, second]
      | _ => referTo [first, second]
  | _ => referTo [first]
where
  /-- A reference to the group with the given number. -/
  referTo (digits : Text) : Reading Pattern := do
    let g := numberOf 10 digits
    let s ← get
    if s.groups.next ≤ g then failBack digits.length (.unknownGroup g)
    if (s.groups.closed? g).isNone then failBack (digits.length + 1) .openGroup
    checkBound g
    return .backref g

/-- Reads an escape outside of bracketed sets. -/
def readEscape (c : Char) : Reading Pattern := do
  if let some a := anchorEscape? c then return .anchor a
  if let some item := categoryEscape? c then return .char (.oneOf false [item])
  if let some code := controlEscape? c then return .char (.code code)
  if let some code ← readCode? c then return .char (.code code)
  if c = '0' then return .char (.code (← readOctal c))
  if c.isDigit then readNumber c
  else return .char (.code (← plainEscape c))

end Reading

end TextShell
