import TextShell.Pattern.Escape

/-!
# Bracketed sets

A set lists characters, ranges of characters and classes between square brackets, after a caret those
that do not belong. A closing bracket that comes first is a member.

## Main Definitions

* `readClassSet` — reads a set after its opening bracket
-/

namespace TextShell

/-- The test that a set makes. One character that stands alone is no set. -/
def CharTest.ofItems (negated : Bool) (items : List ClassItem) : CharTest :=
  match items.eraseDups with
  | [.code c] => if negated then .notCode c else .code c
  | distinct => .oneOf negated distinct

namespace Reading

/-- Reads the member of a set that a token begins. -/
def readClassItem : Token → Reading ClassItem
  | .plain c => return .code c.toNat
  | .escaped c => readClassEscape c

/-- Reads the next token of a set, which must not end before its bracket closes. -/
def nextInSet (start : Nat) : Reading Token := do
  match ← nextToken with
  | some t => return t
  | none => failAt start .unterminatedSet

/-- Reads the members of a set and its closing bracket, after the members `items`, the latest first.
Every round reads a token, so the number of tokens left is fuel enough. -/
def readClassItems (start : Nat) : Nat → List ClassItem → Reading (List ClassItem)
  | 0, _ => failAt start .unterminatedSet
  | fuel + 1, items => do
    let this ← nextInSet start
    if this = .plain ']' && !items.isEmpty then return items.reverse
    let first ← readClassItem this
    if !(← accept '-') then readClassItems start fuel (first :: items)
    else
      let that ← nextInSet start
      if that = .plain ']' then return (.code '-'.toNat :: first :: items).reverse
      let second ← readClassItem that
      match first, second with
      | .code lo, .code hi =>
        if hi < lo then badRange this that
        readClassItems start fuel (.range lo hi :: items)
      | _, _ => badRange this that
where
  /-- Fails because of the two ends of a range. -/
  badRange {α : Type} (this that : Token) : Reading α :=
    failBack (this.size + 1 + that.size) (.badRange this.text that.text)

/-- Reads a set after its opening bracket, which stands at `start`. -/
def readClassSet (start : Nat) : Reading Pattern := do
  let negated ← accept '^'
  let items ← readClassItems start ((← get).source.rest.length + 1) []
  return .char (CharTest.ofItems negated items)

end Reading

end TextShell
