/-
Putting patterns together.

The rows, alternatives and repetitions of a pattern are brought into a form in which
nothing is written twice or in vain:

* `Pattern.oneIn` — a character of a set;
* `Pattern.inTurn` — patterns one after another, the empty ones left out;
* `Pattern.oneOf` — a choice between patterns.  One between letters is a set, as is one between
  sets, and what all rows of it begin with stands in front of the choice, once;
* `Pattern.repeated` — a repetition.  What takes no text is repeated at most once.

Design notes: a row is taken apart into `units`, where letters that stand side by side are
one unit.  With the common units in front, `a*b|a*c` is `a*(b|c)`: how often `a` is
repeated is chosen before the way behind it.
-/
import LineScopes.Pattern.Basic

namespace LineScopes.Pattern

/-! ### Characters -/

/-- Matches one character of the set.  How it was written does not count for a single letter, nor
for no character at all. -/
def oneIn (s : CodeSet) (ascii : Bool) : Pattern :=
  .chars s (ascii && !s.isSingle && !s.ranges.isEmpty)

/-- The set of a pattern that is a single letter. -/
def letter? : Pattern → Option CodeSet
  | .chars s _ => if s.isSingle then some s else none
  | _ => none

/-- The set of a pattern that takes a character and is no letter. -/
def class? : Pattern → Option CodeSet
  | .chars s _ => if s.isSingle then none else some s
  | _ => none

/-! ### Rows -/

/-- The parts of a row. -/
def parts : Pattern → List Pattern
  | .empty => []
  | .seq p q => p.parts ++ q.parts
  | p => [p]

/-- The row of the given parts. -/
def ofParts : List Pattern → Pattern
  | [] => .empty
  | [p] => p
  | p :: ps => .seq p (ofParts ps)

/-- The patterns one after another. -/
def inTurn (ps : List Pattern) : Pattern := ofParts (ps.flatMap parts)

/-- The units of a row: its parts, letters side by side taken together. -/
def units (p : Pattern) : List (List Pattern) :=
  p.parts.splitBy fun a b => a.letter?.isSome && b.letter?.isSome

/-! ### Choices -/

/-- The ways that a choice leaves open. -/
def ways : Pattern → List Pattern
  | .alt p q => p.ways ++ q.ways
  | p => [p]

/-- The choice between the given ways. -/
def ofWays : List Pattern → Pattern
  | [] => .empty
  | [p] => p
  | p :: ps => .alt p (ofWays ps)

/-- A choice between the ways of the patterns; one between letters or between classes is a class. -/
def choose (ps : List Pattern) : Pattern :=
  match ps.flatMap ways with
  | [p] => p
  | ways =>
    match ways.mapM letter? <|> ways.mapM class? with
    | some sets => oneIn (.ofRanges (sets.flatMap CodeSet.ranges)) false
    | none => ofWays ways

/-- What both lists begin with. -/
def sharedStart : List (List Pattern) → List (List Pattern) → List (List Pattern)
  | a :: as, b :: bs => if a = b then a :: sharedStart as bs else []
  | _, _ => []

/-- What all of the rows begin with, if each has several units. -/
def commonStart : List (List (List Pattern)) → List (List Pattern)
  | [] => []
  | row :: rows =>
    if (row :: rows).all (1 < ·.length) then rows.foldl sharedStart row else []

/-- A choice between patterns.  What all of them begin with is matched before the choice. -/
def oneOf (ps : List Pattern) : Pattern :=
  let rows := (ps.flatMap ways).map units
  let start := commonStart rows
  let rests := rows.map fun row => ofParts (row.drop start.length).flatten
  inTurn (start.flatten ++ [choose rests])

/-! ### Repetitions -/

/-- The least number of characters that the pattern takes; `none` if that hangs on a set without
characters. -/
def leastLength? : Pattern → Option Nat
  | .empty | .look _ => some 0
  | .chars s _ => if s.ranges.isEmpty then none else some 1
  | .group _ p => p.leastLength?
  | .seq p q => p.leastLength?.bind fun m => q.leastLength?.map fun n => m + n
  | .alt p q => p.leastLength?.bind fun m => q.leastLength?.map fun n => Nat.min m n
  | .rep p min _ _ => p.leastLength?.map fun n => n * min

/-- Whether the pattern always takes text. -/
def takesText (p : Pattern) : Bool := p.leastLength?.any (0 < ·)

/-- Whether the pattern matches without text wherever it matches. -/
def isTextless : Pattern → Bool
  | .empty | .look _ => true
  | .chars _ _ => false
  | .group _ p => p.isTextless
  | .seq p q | .alt p q => p.isTextless && q.isTextless
  | .rep p _ _ _ => p.isTextless

/-- The repetition of a pattern.  One that takes no text would match at the same place again and
again, so it is repeated at most once. -/
def repeated (p : Pattern) (min : Nat) (max : Option Nat) (greedy : Bool) : Pattern :=
  let (min, max) :=
    if p.isTextless then (Nat.min min 1, some (Nat.min (max.getD 1) 1)) else (min, max)
  if max = some 0 then .empty
  else if min = 1 ∧ max = some 1 then p
  else .rep p min max greedy

end LineScopes.Pattern
