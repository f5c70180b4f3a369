import TextShell.Text.Quoted
import TextShell.Text.Integer
import TextShell.Pattern.Basic

/-!
# Errors in patterns

A pattern may be malformed, which is a complaint about a place in it, or ask for more than can be
done. Both end the reading at once.

## Main Definitions

* `Complaint` — what is wrong with a malformed pattern
* `Place` — where it is wrong
* `Excess` — what a pattern asks for that cannot be done
* `PatternError` — one or the other
-/

namespace TextShell

/-- What a name in a pattern names. -/
inductive NameKind where
  | group
  | character
  deriving DecidableEq, Repr

/-- The wording for a kind of name. -/
def NameKind.message : NameKind → Text
  | .group => "group name"
  | .character => "character name"

/-- What is wrong with a malformed pattern. Texts are quoted from the pattern. -/
inductive Complaint where
  | endInEscape
  | incompleteEscape (escape : Text)
  | badEscape (escape : Text)
  | octalTooLarge (escape : Text)
  | missingBrace
  | missingName (kind : NameKind)
  | unterminatedName (terminator : Char)
  | unknownCharacter (name : Text)
  | unterminatedSet
  | badRange (lo hi : Text)
  | minAboveMax
  | nothingToRepeat
  | multipleRepeat
  | endInGroup
  | badGroupName (name : Text)
  | unknownGroupName (name : Text)
  | badGroupNumber
  | unknownGroup (g : Nat)
  | openGroup
  | groupOfSameLookBehind
  | renamedGroup (name : Text) (new old : Nat)
  | unknownExtension (text : Text)
  | unterminatedComment
  | unterminatedGroup
  | thirdBranch
  | unbalanced
  | lateGlobalFlags
  | localeFlag
  | incompatibleFlags
  | missingFlagEnd
  | unknownFlag
  | missingFlag
  | missingColon
  | globalFlagOn
  | globalFlagOff
  | alphabetFlagOff
  | flagOnAndOff
  | repeatInTemplate (greed : Greed)
  | lookBehindNotFixed
  deriving DecidableEq, Repr

/-- The wording of a complaint. -/
def Complaint.message : Complaint → Text
  | .endInEscape => "bad escape (end of pattern)"
  | .incompleteEscape escape => "incomplete escape " ++ escape
  | .badEscape escape => "bad escape " ++ escape
  | .octalTooLarge escape => "octal escape value " ++ escape ++ " outside of range 0-0o377"
  | .missingBrace => "missing \x7b"
  | .missingName kind => "missing " ++ kind.message
  | .unterminatedName terminator => "missing " ++ [terminator] ++ ", unterminated name"
  | .unknownCharacter name => "undefined character name " ++ name.quoted
  | .unterminatedSet => "unterminated character set"
  | .badRange lo hi => "bad character range " ++ lo ++ "-" ++ hi
  | .minAboveMax => "min repeat greater than max repeat"
  | .nothingToRepeat => "nothing to repeat"
  | .multipleRepeat => "multiple repeat"
  | .endInGroup => "unexpected end of pattern"
  | .badGroupName name => "bad character in group name " ++ name.quoted
  | .unknownGroupName name => "unknown group name " ++ name.quoted
  | .badGroupNumber => "bad group number"
  | .unknownGroup g => "invalid group reference " ++ Text.ofNat g
  | .openGroup => "cannot refer to an open group"
  | .groupOfSameLookBehind =>
    "cannot refer to group defined in the same lookbehind subpattern"
  | .renamedGroup name new old =>
    "redefinition of group name " ++ name.quoted ++ " as group " ++ Text.ofNat new ++
      "; was group " ++ Text.ofNat old
  | .unknownExtension text => "unknown extension " ++ text
  | .unterminatedComment => "missing ), unterminated comment"
  | .unterminatedGroup => "missing ), unterminated subpattern"
  | .thirdBranch => "conditional backref with more than two branches"
  | .unbalanced => "unbalanced parenthesis"
  | .lateGlobalFlags => "global flags not at the start of the expression"
  | .localeFlag => "bad inline flags: cannot use 'L' flag with a str pattern"
  | .incompatibleFlags => "bad inline flags: flags 'a', 'u' and 'L' are incompatible"
  | .missingFlagEnd => "missing -, : or )"
  | .unknownFlag => "unknown flag"
  | .missingFlag => "missing flag"
  | .missingColon => "missing :"
  | .globalFlagOn => "bad inline flags: cannot turn on global flag"
  | .globalFlagOff => "bad inline flags: cannot turn off global flag"
  | .alphabetFlagOff => "bad inline flags: cannot turn off flags 'a', 'u' and 'L'"
  | .flagOnAndOff => "bad inline flags: flag turned on and off"
  | .repeatInTemplate .greedy => "internal: unsupported template operator MAX_REPEAT"
  | .repeatInTemplate .lazy => "internal: unsupported template operator MIN_REPEAT"
  | .repeatInTemplate .possessive =>
    "internal: unsupported template operator POSSESSIVE_REPEAT"
  | .lookBehindNotFixed => "look-behind requires fixed-width pattern"

/-- A place in a pattern: an offset, and the line and column if the pattern has several lines. -/
structure Place where
  offset : Nat
  lineColumn : Option (Nat × Nat)
  deriving DecidableEq, Repr

namespace Place

/-- The place at an offset of a pattern. -/
def of (pattern : Text) (offset : Nat) : Place where
  offset := offset
  lineColumn :=
    if pattern.contains '\n' then
      let before := pattern.take offset
      some (before.count '\n' + 1, (before.reverse.takeWhile (· != '\n')).length + 1)
    else none

/-- The wording of a place. -/
def message (p : Place) : Text :=
  " at position " ++ Text.ofNat p.offset ++
    match p.lineColumn with
    | none => []
    | some (line, column) =>
      " (line " ++ Text.ofNat line ++ ", column " ++ Text.ofNat column ++ ")"

end Place

/-- What a pattern asks for that cannot be done. -/
inductive Excess where
  /-- Too many repetitions. -/
  | repetitions
  /-- A character number beyond the machine's integers. -/
  | characterNumber
  /-- A count with too many digits to be read. -/
  | countDigits (digits : Nat)
  /-- Two alphabets at once. -/
  | alphabets
  /-- Looking behind farther than the machine's integers reach. -/
  | lookBehind
  /-- A match with a group that ends before it begins. -/
  | groupSpan
  deriving DecidableEq, Repr

/-- The refusal of a number with too many digits. -/
def digitLimitMessage (digits : Nat) : Text :=
  "Exceeds the limit (" ++ Text.ofNat digitLimit ++
    " digits) for integer string conversion: value has " ++ Text.ofNat digits ++
    " digits; use sys.set_int_max_str_digits() to increase the limit"

/-- The wording of a refusal. -/
def Excess.message : Excess → Text
  | .repetitions => "the repetition number is too large"
  | .characterNumber => "Python int too large to convert to C int"
  | .countDigits digits => digitLimitMessage digits
  | .alphabets => "ASCII and UNICODE flags are incompatible"
  | .lookBehind => "invalid SRE code"
  | .groupSpan =>
    "The span of capturing group is wrong, please report a bug for the re module."

/-- Why a pattern is not accepted. -/
inductive PatternError where
  /-- It is malformed, at a place unless the complaint is about the whole. -/
  | malformed (complaint : Complaint) (place : Option Place)
  /-- It asks for too much. -/
  | excess (e : Excess)
  deriving DecidableEq, Repr

/-- The wording of an error. -/
def PatternError.message : PatternError → Text
  | .malformed complaint none => complaint.message
  | .malformed complaint (some place) => complaint.message ++ place.message
  | .excess e => e.message

end TextShell
