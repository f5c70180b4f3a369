import TextShell.Text.Basic

/-!
# Tokens of a pattern

A pattern is read as tokens: a backslash belongs to the character after it.

## Main Definitions

* `Token` — a character, escaped or not
* `Token.ofText` — a pattern as tokens
* `spanPlain`, `splitAtPlain` — how tokens are cut
-/

namespace TextShell

/-- A character of a pattern, or a backslash and the character after it. -/
inductive Token where
  | plain (c : Char)
  | escaped (c : Char)
  deriving DecidableEq, Repr

namespace Token

/-- The token as it stands in the pattern. -/
def text : Token → Text
  | .plain c => [c]
  | .escaped c => ['\\', c]

/-- How many characters the token takes. -/
def size (t : Token) : Nat :=
  t.text.length

/-- The tokens of a pattern, and whether a lone backslash follows them. -/
def ofText : Text → List Token × Bool
  | [] => ([], false)
  | ['\\'] => ([], true)
  | '\\' :: c :: cs => let (ts, dangling) := ofText cs; (.escaped c :: ts, dangling)
  | c :: cs => let (ts, dangling) := ofText cs; (.plain c :: ts, dangling)

end Token

/-- The characters at the start of some tokens, at most `n`, that satisfy `p`, and what follows
them. -/
def spanPlain (p : Char → Bool) : Nat → List Token → Text × List Token
  | 0, ts => ([], ts)
  | _ + 1, [] => ([], [])
  | n + 1, t :: ts =>
    match t with
    | .plain c =>
      if p c then let (cs, rest) := spanPlain p n ts; (c :: cs, rest) else ([], t :: ts)
    | .escaped _ => ([], t :: ts)

/-- The tokens before the first one that is the given character, and those after it. -/
def splitAtPlain (c : Char) : List Token → Option (List Token × List Token)
  | [] => none
  | t :: ts =>
    if t = .plain c then some ([], ts)
    else (splitAtPlain c ts).map fun (before, after) => (t :: before, after)

/-- The text of some tokens. -/
def tokensText (ts : List Token) : Text :=
  ts.flatMap Token.text

end TextShell
