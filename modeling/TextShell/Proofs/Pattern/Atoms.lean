import TextShell.Proofs.Pattern.Moves
import TextShell.Pattern.ClassSet

/-!
# Escapes and sets in an enclosed pattern

An escape and a bracketed set are read alike whether the pattern is enclosed or not.  A set is read
member by member up to its closing bracket, and every round takes a token, so rounds enough are left
as long as there are more of them than tokens (`FollowsBelow.readClassItems`).

## Main Definitions

* `Reading.classRound` — one round of reading the members of a set
* `Reading.ofThreeDigits`, `Reading.afterTwoDigits` — the ends of reading a number after a backslash
-/

namespace TextShell

namespace Follows

theorem readHex (letter : Char) (n : Nat) :
    Follows (Reading.readHex letter n) (Reading.readHex letter n) := by
  refine (takeUpTo rfl n).bind fun digits => ?_
  refine checked (.failBack _ _) (.failBack _ _) ?_
  refine checked (.exceed _) (.exceed _) ?_
  exact checked (.failBack _ _) (.failBack _ _) (returns _)

theorem readCharName : Follows Reading.readCharName Reading.readCharName := by
  refine (accept (by decide)).bind fun opened => ?_
  refine checked (.failBack _ _) (.failBack _ _) ?_
  refine (readName _ _).bind fun name => ?_
  cases charNamed? name with
  | some code => exact returns code
  | none => exact of_fails (.failBack _ _) (.failBack _ _)

theorem readCode? (letter : Char) :
    Follows (Reading.readCode? letter) (Reading.readCode? letter) := by
  unfold Reading.readCode?
  split
  · exact (readHex _ _).bind fun _ => returns _
  · exact (readHex _ _).bind fun _ => returns _
  · exact (readHex _ _).bind fun _ => returns _
  · exact readCharName.bind fun _ => returns _
  · exact returns _

theorem readOctal (first : Char) : Follows (Reading.readOctal first) (Reading.readOctal first) := by
  refine (takeUpTo rfl 2).bind fun digits => ?_
  exact checked (.failBack _ _) (.failBack _ _) (returns _)

theorem plainEscape (c : Char) : Follows (Reading.plainEscape c) (Reading.plainEscape c) :=
  checked (.failBack _ _) (.failBack _ _) (returns _)

theorem readClassEscape (c : Char) :
    Follows (Reading.readClassEscape c) (Reading.readClassEscape c) := by
  unfold Reading.readClassEscape
  cases controlEscape? c with
  | some code => exact returns _
  | none =>
      cases categoryEscape? c with
      | some item => exact returns _
      | none =>
          refine (readCode? c).bind fun code => ?_
          cases code with
          | some code => exact returns _
          | none =>
              refine branch (fun _ => ?_) fun _ => ?_
              · exact (readOctal c).bind fun _ => returns _
              · exact (plainEscape c).bind fun _ => returns _

theorem readClassItem (t : Token) :
    Follows (Reading.readClassItem t) (Reading.readClassItem t) := by
  cases t with
  | plain c => exact returns _
  | escaped c => exact readClassEscape c

theorem nextInSet (start start' : Nat) :
    Follows (Reading.nextInSet start) (Reading.nextInSet start') :=
  nextToken_bind (.failAt _ _) (.failAt _ _) fun t => returns t

end Follows

namespace Reading

/-- One round of reading the members of a set. -/
def classRound (start : Nat) (items : List ClassItem)
    (next : List ClassItem → Reading (List ClassItem)) : Reading (List ClassItem) := do
  let this ← nextInSet start
  if this = .plain ']' && !items.isEmpty then return items.reverse
  let first ← readClassItem this
  if !(← accept '-') then next (first :: items)
  else
    let that ← nextInSet start
    if that = .plain ']' then return (.code '-'.toNat :: first :: items).reverse
    let second ← readClassItem that
    match first, second with
    | .code lo, .code hi =>
      if hi < lo then readClassItems.badRange this that
      next (.range lo hi :: items)
    | _, _ => readClassItems.badRange this that

theorem badRange_fails {α : Type} (this that : Token) :
    Fails (readClassItems.badRange this that : Reading α) :=
  Fails.failBack _ _

theorem readClassItems_succ (start n : Nat) (items : List ClassItem) :
    readClassItems start (n + 1) items = classRound start items (readClassItems start n) := by
  rw [readClassItems]
  rfl

end Reading

namespace FollowsBelow

variable {α : Type} {k k' start start' : Nat}

theorem nextInSet_bind {f f' : Token → Reading α} (hf : ∀ t, FollowsBelow k k' (f t) (f' t)) :
    FollowsBelow (k + 1) (k' + 1) (Reading.nextInSet start >>= f)
      (Reading.nextInSet start' >>= f') := by
  unfold Reading.nextInSet
  rw [bind_assoc, bind_assoc]
  exact nextToken_bind (Fails.bind (.failAt _ _)) (Fails.bind (.failAt _ _)) hf

theorem classRound {next next' : List ClassItem → Reading (List ClassItem)}
    (hnext : ∀ items, FollowsBelow k k' (next items) (next' items)) (items : List ClassItem) :
    FollowsBelow (k + 1) (k' + 1) (Reading.classRound start items next)
      (Reading.classRound start' items next') := by
  refine nextInSet_bind fun this => ?_
  refine branch (fun _ => (Follows.returns _).below _ _) fun _ => ?_
  refine ((Follows.readClassItem this).below _ _).bind fun first => ?_
  refine ((Follows.accept (by decide)).below _ _).bind fun dash => ?_
  refine branch (fun _ => hnext _) fun _ => ?_
  refine ((Follows.nextInSet _ _).below _ _).bind fun that => ?_
  refine branch (fun _ => (Follows.returns _).below _ _) fun _ => ?_
  refine ((Follows.readClassItem that).below _ _).bind fun second => ?_
  have hbad : FollowsBelow k k'
      (Reading.readClassItems.badRange this that : Reading (List ClassItem))
      (Reading.readClassItems.badRange this that) :=
    (Follows.of_fails (Reading.badRange_fails _ _) (Reading.badRange_fails _ _)).below k k'
  cases first with
  | code lo =>
      cases second with
      | code hi =>
          refine branch (fun _ => ?_) fun _ => hnext _
          exact (Follows.of_fails (Reading.badRange_fails _ _).bind
            (Reading.badRange_fails _ _).bind).below _ _
      | range lo hi => exact hbad
      | category k negated => exact hbad
  | range lo hi => exact hbad
  | category k negated => exact hbad

theorem readClassItems (n n' : Nat) (items : List ClassItem) :
    FollowsBelow n n' (Reading.readClassItems start n items)
      (Reading.readClassItems start' n' items) := by
  have hzero : ∀ items, Fails (Reading.readClassItems start' 0 items) := fun _ => .failAt _ _
  exact loop _ _ hzero (Reading.readClassItems_succ start) (Reading.readClassItems_succ start')
    classRound n n' items

end FollowsBelow

namespace Follows

theorem readClassSet (start start' : Nat) :
    Follows (Reading.readClassSet start) (Reading.readClassSet start') := by
  refine (accept (by decide)).bind fun negated => looks fun mode s s' hs => ?_
  refine FollowsAt.bind ?_ (fun items _ _ _ _ ht _ _ => .returns ht _) fun _ t' _ => .returns t' _
  exact (FollowsBelow.readClassItems _ _ _).follows hs (Nat.lt_succ_self _) (Nat.lt_succ_self _)

theorem checkBound (g : Nat) : Follows (Reading.checkBound g) (Reading.checkBound g) := by
  refine looks fun mode s s' hs => ?_
  rw [hs.bound, hs.groups]
  refine Follows.along ?_ hs
  cases s.bound with
  | none => exact returns _
  | some bound =>
      refine checked (.failBack _ _) (.failBack _ _) ?_
      exact check (.failBack _ _) (.failBack _ _) (returns _)

theorem referTo (digits : Text) :
    Follows (Reading.readNumber.referTo digits) (Reading.readNumber.referTo digits) := by
  refine looks fun mode s s' hs => ?_
  rw [hs.groups]
  refine Follows.along ?_ hs
  refine checked (.failBack _ _) (.failBack _ _) ?_
  refine checked (.failBack _ _) (.failBack _ _) ?_
  exact (checkBound _).bind fun _ => returns _

end Follows

namespace Reading

/-- The character of three octal digits. -/
def ofThreeDigits (digits : Text) : Reading Pattern := do
  let code := numberOf 8 digits
  if code > octalLimit then failBack 4 (.octalTooLarge ('\\' :: digits))
  return .char (.code code)

/-- What `readNumber` makes of two digits and what follows them. -/
def afterTwoDigits (first second : Char) : Reading Pattern := do
  match ← peek with
  | some (.plain third) =>
    if isOctal first && isOctal second && isOctal third then
      let _ ← nextToken
      ofThreeDigits [first, second, third]
    else readNumber.referTo [first, second]
  | _ => readNumber.referTo [first, second]

theorem readNumber_eq (first : Char) :
    readNumber first = (do
      match ← peek with
      | some (.plain second) =>
        if !second.isDigit then readNumber.referTo [first]
        else
          let _ ← nextToken
          afterTwoDigits first second
      | _ => readNumber.referTo [first]) := by
  rfl

end Reading

namespace Follows

theorem afterTwoDigits (first second : Char) :
    Follows (Reading.afterTwoDigits first second) (Reading.afterTwoDigits first second) := by
  have hrefer := referTo [first, second]
  intro mode s s' hs
  refine .peek_bind hs (fun dangling => ?_) (hrefer mode s s' hs) fun t ts hts => ?_
  · cases dangling
    · simp [closingToken, isOctal]
    · rfl
  · cases t with
    | escaped c => exact hrefer mode s s' hs
    | plain third =>
        refine .branch (fun _ => ?_) fun _ => hrefer mode s s' hs
        have hcode : Follows (Reading.ofThreeDigits [first, second, third])
            (Reading.ofThreeDigits [first, second, third]) :=
          checked (.failBack _ _) (.failBack _ _) (returns _)
        exact (FollowsPast.skipToken hs hts hcode).follows

theorem readNumber (first : Char) :
    Follows (Reading.readNumber first) (Reading.readNumber first) := by
  have hrefer := referTo [first]
  intro mode s s' hs
  rw [Reading.readNumber_eq]
  refine .peek_bind hs (fun dangling => ?_) (hrefer mode s s' hs) fun t ts hts => ?_
  · cases dangling <;> rfl
  · cases t with
    | escaped c => exact hrefer mode s s' hs
    | plain second =>
        refine .branch (fun _ => hrefer mode s s' hs) fun _ => ?_
        exact (FollowsPast.skipToken hs hts (afterTwoDigits first second)).follows

theorem readEscape (c : Char) : Follows (Reading.readEscape c) (Reading.readEscape c) := by
  unfold Reading.readEscape
  cases anchorEscape? c with
  | some a => exact returns _
  | none =>
      cases categoryEscape? c with
      | some item => exact returns _
      | none =>
          cases controlEscape? c with
          | some code => exact returns _
          | none =>
              refine (readCode? c).bind fun code => ?_
              cases code with
              | some code => exact returns _
              | none =>
                  refine branch (fun _ => (readOctal c).bind fun _ => returns _) fun _ => ?_
                  refine branch (fun _ => readNumber c) fun _ => ?_
                  exact (plainEscape c).bind fun _ => returns _

end Follows

end TextShell
