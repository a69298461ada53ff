import RestRoutes.Pattern.CharSet

/-! Regular expressions and what they match.  A match may remember the places of groups, which later
parts refer to; so the outcomes of a part are listed in the order of preference, each with the place
it ends at and the groups so far. -/

namespace RestRoutes.Pattern

/-- A condition on a place of the text. -/
inductive Anchor
  | textStart
  | lineStart
  | textEnd
  /-- The end, or the line feed that ends the text. -/
  | lastLineEnd
  | lineEnd
  | wordEdge (ascii : Bool)
  | noWordEdge (ascii : Bool)
deriving DecidableEq, Repr

/-- How a repetition chooses the number of its rounds: as many as it can, as few as it can, or as many
as it can without giving any back. -/
inductive Greed
  | greedy
  | lazy
  | possessive
deriving DecidableEq, Repr

inductive Regex
  | empty
  | one (set : CharSet)
  | anchor (kind : Anchor)
  | seq (a b : Regex)
  | alt (a b : Regex)
  /-- A part whose place is remembered under a number. -/
  | group (number : Nat) (body : Regex)
  /-- The text of a group once more; `least` and `most` bound its length. -/
  | again (number : Nat) (folding : Folding) (least most : Nat)
  /-- One part if a group has matched, the other if not. -/
  | ifGroup (number : Nat) (yes no : Regex)
  /-- A condition on what follows, or does not follow. -/
  | ahead (wanted : Bool) (body : Regex)
  /-- A condition on the `width` characters before. -/
  | behind (wanted : Bool) (width : Nat) (body : Regex)
  /-- The preferred outcome of a part alone. -/
  | atomic (body : Regex)
  | rep (greed : Greed) (least : Nat) (most : Option Nat) (body : Regex)
deriving Repr

namespace Regex

/-- The least number that is too large for a bound of a repetition. -/
def unbounded : Nat := 4294967295

/-- The widest that a part is taken to be. -/
def widest : Nat := 18446744073709551616

/-- The least and the greatest length of a text that a part matches. -/
def width : Regex → Nat × Nat
  | .empty | .anchor _ | .ahead _ _ | .behind _ _ _ => (0, 0)
  | .one _ => (1, 1)
  | .seq a b => (min widest (a.width.1 + b.width.1), min widest (a.width.2 + b.width.2))
  | .alt a b | .ifGroup _ a b => (min a.width.1 b.width.1, max a.width.2 b.width.2)
  | .group _ body | .atomic body => body.width
  | .again _ _ least most => (least, most)
  | .rep _ least (some most) body =>
    (min widest (least * body.width.1), min widest (most * body.width.2))
  | .rep _ least none body =>
    (min widest (least * body.width.1), if body.width.2 = 0 then 0 else widest)

/-- The most characters that a condition may look back at. -/
def lookBehindLimit : Nat := 4294967295

/-- An expression can be used when each of its conditions on what comes before looks at one number of
characters, within the limit, and when it has no repetitions where these are switched off. -/
def isUsable (noRepeats : Bool) : Regex → Bool
  | .empty | .one _ | .anchor _ | .again _ _ _ _ => true
  | .seq a b | .alt a b | .ifGroup _ a b => a.isUsable noRepeats && b.isUsable noRepeats
  | .group _ body | .ahead _ body | .atomic body => body.isUsable noRepeats
  | .behind _ width body =>
    body.width == (width, width) && decide (width ≤ lookBehindLimit) && body.isUsable noRepeats
  | .rep _ _ _ body => !noRepeats && body.isUsable noRepeats

end Regex

/-! ### Outcomes -/

/-- An outcome: the characters read, the characters left, and the texts of the groups that have
matched. -/
structure Outcome where
  before : List Char
  after : List Char
  groups : List (Nat × List Char)
deriving DecidableEq, Repr

namespace Outcome

def start (cs : List Char) : Outcome := ⟨[], cs, []⟩

/-- The number of characters read. -/
def position (o : Outcome) : Nat := o.before.length

/-- The text that was read from `start` on. -/
def since (start o : Outcome) : List Char :=
  (o.before.take (o.position - start.position)).reverse

def remember (number : Nat) (text : List Char) (o : Outcome) : Outcome :=
  { o with groups := (number, text) :: o.groups.filter (·.1 != number) }

/-- The outcome `n` characters back. -/
def back : Nat → Outcome → Option Outcome
  | 0, o => some o
  | _ + 1, ⟨[], _, _⟩ => none
  | n + 1, ⟨c :: before, after, groups⟩ => back n ⟨before, c :: after, groups⟩

/-- Reads the given text under a folding. -/
def readText (same : Char → Char → Bool) : List Char → Outcome → Option Outcome
  | [], o => some o
  | c :: cs, ⟨before, d :: after, groups⟩ =>
    if same c d then readText same cs ⟨d :: before, after, groups⟩ else none
  | _ :: _, ⟨_, [], _⟩ => none

end Outcome

/-- Two characters count as one under a folding. -/
def sameUnder (folding : Folding) (a b : Char) : Bool :=
  match folding with
  | .exact => a == b
  | .ascii => a.toLower == b.toLower
  | .full => Text.lower a == Text.lower b

/-- A word begins or ends at a place. -/
def isWordEdge (ascii : Bool) (o : Outcome) : Bool :=
  let isWord (c : Option Char) : Bool := c.any (Category.word.has ascii ·)
  isWord o.before.head? != isWord o.after.head?

/-- A condition on a place holds there. No place of an empty text has to do with words. -/
def Anchor.holds (o : Outcome) : Anchor → Bool
  | .textStart => o.before.isEmpty
  | .lineStart => o.before.isEmpty || o.before.head? == some '\n'
  | .textEnd => o.after.isEmpty
  | .lastLineEnd => o.after.isEmpty || o.after == ['\n']
  | .lineEnd => o.after.isEmpty || o.after.head? == some '\n'
  | .wordEdge ascii => isWordEdge ascii o
  | .noWordEdge ascii => !(o.before.isEmpty && o.after.isEmpty) && !isWordEdge ascii o

namespace Regex

/-! ### Repetition -/

/-- The list without later copies of its elements. -/
def distinct (os : List Outcome) : List Outcome :=
  os.foldr (fun o rest => o :: rest.filter (· != o)) []

/-- The outcomes after the rounds that a repetition must have. A round that changes nothing stands
for all that are left. -/
def rounds (step : Outcome → List Outcome) : (fuel least : Nat) → List Outcome → List Outcome
  | 0, _, os => os
  | _, 0, os => os
  | fuel + 1, least + 1, os =>
    let next := distinct (os.flatMap step)
    if next == os then os else rounds step fuel least next

/-- The outcomes of further rounds, up to `most` of them. A round is tried only where the round
before has moved on from `last`. -/
def further (lazy : Bool) (step : Outcome → List Outcome) :
    (fuel : Nat) → (most : Option Nat) → (last : Option Nat) → Outcome → List Outcome
  | 0, _, _, o => [o]
  | fuel + 1, most, last, o =>
    if most == some 0 || last == some o.position then [o]
    else
      let more := (step o).flatMap (further lazy step fuel (most.map (· - 1)) (some o.position))
      distinct (if lazy then o :: more else more ++ [o])

/-- The outcome of as many rounds as can be had, each taking its preferred outcome. -/
def furthest (step : Outcome → List Outcome) : (fuel : Nat) → (most : Option Nat) → Outcome → Outcome
  | 0, _, o => o
  | fuel + 1, most, o =>
    if most == some 0 then o
    else
      match step o with
      | [] => o
      | next :: _ =>
        if next.position == o.position then next
        else furthest step fuel (most.map (· - 1)) next

/-- The preferred outcome of exactly `least` rounds. -/
def forced (step : Outcome → List Outcome) : (fuel least : Nat) → Outcome → Option Outcome
  | 0, _, o => some o
  | _, 0, o => some o
  | fuel + 1, least + 1, o =>
    match step o with
    | [] => none
    | next :: _ => if next == o then some o else forced step fuel least next

def repetition (step : Outcome → List Outcome) (greed : Greed) (least : Nat) (most : Option Nat)
    (o : Outcome) : List Outcome :=
  let size := o.after.length + 2
  let left := most.map (· - least)
  match greed with
  | .possessive => ((forced step (size + least) least o).map (furthest step size left)).toList
  | _ =>
    distinct <| (rounds step (size + least) least [o]).flatMap
      (further (greed == .lazy) step size left none)

/-! ### Matching -/

/-- The outcomes of an expression, the preferred ones first. -/
def outcomes : Regex → Outcome → List Outcome
  | .empty, o => [o]
  | .one set, ⟨before, c :: after, groups⟩ =>
    if set.has c then [⟨c :: before, after, groups⟩] else []
  | .one _, ⟨_, [], _⟩ => []
  | .anchor kind, o => if kind.holds o then [o] else []
  | .seq a b, o => distinct ((a.outcomes o).flatMap b.outcomes)
  | .alt a b, o => distinct (a.outcomes o ++ b.outcomes o)
  | .group number body, o => (body.outcomes o).map fun e => e.remember number (o.since e)
  | .again number folding _ _, o =>
    match o.groups.lookup number with
    | none => []
    | some text => (o.readText (sameUnder folding) text).toList
  | .ifGroup number yes no, o =>
    if (o.groups.lookup number).isSome then yes.outcomes o else no.outcomes o
  | .ahead wanted body, o =>
    match body.outcomes o, wanted with
    | [], true => []
    | [], false => [o]
    | e :: _, true => [{ o with groups := e.groups }]
    | _ :: _, false => []
  | .behind wanted width body, o =>
    match (o.back width).map body.outcomes, wanted with
    | some (e :: _), true => [{ o with groups := e.groups }]
    | some (_ :: _), false => []
    | _, true => []
    | _, false => [o]
  | .atomic body, o => (body.outcomes o).take 1
  | .rep greed least most body, o => repetition body.outcomes greed least most o

/-- An expression matches a text from its start to its end. -/
def matchesAll (r : Regex) (text : String) : Bool :=
  (r.outcomes (.start text.toList)).any (·.after.isEmpty)

end Regex

end RestRoutes.Pattern
