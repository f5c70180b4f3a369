import TextShell.Pattern.Reading
import TextShell.Text.Letter

/-!
# Flags in a pattern

Flag letters after the question mark of a group turn flags on, and after a minus sign off. A closing
bracket after them makes them the flags of the whole pattern; a colon makes them those of the group.

## Main Definitions

* `flagOf?` — the flag of a letter
* `readFlags` — reads the flags of a group, none if they are for the whole pattern
-/

namespace TextShell

/-- A letter that stands for a flag. -/
inductive FlagLetter where
  /-- A flag. -/
  | flag (f : Flags)
  /-- The flag for the alphabet of a locale, which a text has not. -/
  | locale

/-- The flag of a letter. -/
def flagOf? : Char → Option FlagLetter
  | 'i' => some (.flag { ignoreCase := true })
  | 'm' => some (.flag { multiline := true })
  | 's' => some (.flag { dotAll := true })
  | 'x' => some (.flag { verbose := true })
  | 'a' => some (.flag { ascii := true })
  | 'u' => some (.flag { unicode := true })
  | 't' => some (.flag { template := true })
  | 'L' => some .locale
  | _ => none

/-- Whether a token is a letter of any script. -/
def Token.isLetter : Token → Bool
  | .plain c => TextShell.isLetter c
  | .escaped _ => false

/-- The flag of a token. -/
def Token.flag? : Token → Option FlagLetter
  | .plain c => flagOf? c
  | .escaped _ => none

namespace Reading

/-- Fails because a token is no flag: an unknown letter, or something else than what is missing. -/
def notAFlag {α : Type} (t : Token) (missing : Complaint) : Reading α :=
  failBack t.size (if t.isLetter then .unknownFlag else missing)

/-- Reads flags that are turned on, of which the first was read, up to the character that ends them.
Every round reads a token, so the number of tokens left is fuel enough. -/
def readFlagsOn : Nat → FlagLetter → Flags → Reading (Flags × Token)
  | 0, _, _ => failBack 0 .missingFlagEnd
  | _ + 1, .locale, _ => failBack 0 .localeFlag
  | fuel + 1, .flag f, on => do
    let on := on.union f
    if (f.ascii || f.unicode) && on.ascii && on.unicode then failBack 0 .incompatibleFlags
    match ← nextToken with
    | none => failBack 0 .missingFlagEnd
    | some t =>
      if t = .plain ')' || t = .plain '-' || t = .plain ':' then return (on, t)
      match t.flag? with
      | some g => readFlagsOn fuel g on
      | none => notAFlag t .missingFlagEnd

/-- Reads flags that are turned off, of which the first was read, up to the colon. -/
def readFlagsOff : Nat → FlagLetter → Flags → Reading Flags
  | 0, _, _ => failBack 0 .missingColon
  | _ + 1, .locale, _ => failBack 0 .alphabetFlagOff
  | fuel + 1, .flag f, off => do
    if f.ascii || f.unicode then failBack 0 .alphabetFlagOff
    let off := off.union f
    match ← nextToken with
    | none => failBack 0 .missingColon
    | some t =>
      if t = .plain ':' then return off
      match t.flag? with
      | some g => readFlagsOff fuel g off
      | none => notAFlag t .missingColon

/-- Reads the flags of a group whose first token, a flag letter or a minus sign, was read. The result
is what is turned on and off inside the group, or none if the whole pattern was meant. -/
def readFlags (first : Token) : Reading (Option (Flags × Flags)) := do
  let fuel := (← get).source.rest.length + 1
  let (on, terminator) ←
    match first.flag? with
    | some f => readFlagsOn fuel f {}
    | none => pure ({}, first)
  if terminator = .plain ')' then
    modify fun s => { s with flags := s.flags.union on }
    return none
  if on.template then failBack 1 .globalFlagOn
  let off ←
    if terminator = .plain '-' then
      match ← nextToken with
      | none => failBack 0 .missingFlag
      | some t =>
        match t.flag? with
        | some f => readFlagsOff fuel f {}
        | none => notAFlag t .missingFlag
    else pure {}
  if off.template then failBack 1 .globalFlagOff
  if on.meets off then failBack 1 .flagOnAndOff
  return some (on, off)

end Reading

end TextShell
