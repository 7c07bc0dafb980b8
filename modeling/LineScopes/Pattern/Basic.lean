/-
Patterns.

* `Pattern` — what a pattern is made of;
* `Look` — conditions on the place between two characters;
* `Malformed` — what can be wrong with the text of a pattern.
-/
import LineScopes.Unicode.Character

namespace LineScopes

/-! ### Conditions on a place -/

/-- The edges of words that a place can be at. -/
inductive WordEdge where
  /-- A word begins or ends here. -/
  | either
  /-- No word begins or ends here. -/
  | neither
  /-- A word begins here. -/
  | start
  /-- A word ends here. -/
  | stop
  /-- No word goes on from before. -/
  | startHalf
  /-- No word goes on from here. -/
  | stopHalf
deriving DecidableEq, Repr

/-- A condition on the characters before and after a place. -/
inductive Look where
  | textStart
  | textEnd
  /-- Lines end with a line feed. -/
  | lineStart
  | lineEnd
  /-- Lines end with a line feed, a carriage return, or both. -/
  | lineStartCRLF
  | lineEndCRLF
  /-- The edge of a word; `ascii` if only ASCII characters make words. -/
  | word (ascii : Bool) (edge : WordEdge)
deriving DecidableEq, Repr

/-- Whether `c` belongs to a word. -/
def isWordChar (ascii : Bool) (c : Char) : Bool :=
  if ascii then c.isAlphanum || c == '_' else Unicode.isWord c

/-- Whether the edge is between a word character or none before and after. -/
def WordEdge.holds (before after : Bool) : WordEdge → Bool
  | .either => before != after
  | .neither => before == after
  | .start => !before && after
  | .stop => before && !after
  | .startHalf => !before
  | .stopHalf => !after

/-- Whether the condition holds between two characters, either of which is absent at the end of the
text. -/
def Look.holds (before after : Option Char) : Look → Bool
  | .textStart => before.isNone
  | .textEnd => after.isNone
  | .lineStart => before.all (· == '\n')
  | .lineEnd => after.all (· == '\n')
  | .lineStartCRLF => before.all fun c => c == '\n' || (c == '\r' && after != some '\n')
  | .lineEndCRLF => after.all fun c => c == '\r' || (c == '\n' && before != some '\r')
  | .word ascii edge => edge.holds (before.any (isWordChar ascii)) (after.any (isWordChar ascii))

/-! ### Patterns -/

/-- A pattern.  Where there is a choice, the first way that leads to a match counts. -/
inductive Pattern where
  /-- Matches without text. -/
  | empty
  /-- Matches one character of the set; `ascii` if the set was written without Unicode. -/
  | chars (set : CodeSet) (ascii : Bool)
  /-- Matches without text where the condition holds. -/
  | look (l : Look)
  /-- Matches as `p` does and notes where. -/
  | group (index : Nat) (p : Pattern)
  /-- Matches as `p` and then as `q` does. -/
  | seq (p q : Pattern)
  /-- Matches as `p` or as `q` does. -/
  | alt (p q : Pattern)
  /-- Matches as `p` does again and again, at least `min` times and no more than `max` times, as
  often as possible if `greedy`. -/
  | rep (p : Pattern) (min : Nat) (max : Option Nat) (greedy : Bool)
deriving DecidableEq, Repr, Inhabited

namespace Pattern

/-- The largest number of a group that can take part in a match. -/
def groupCount : Pattern → Nat
  | .empty | .chars _ _ | .look _ => 0
  | .group i p => max i p.groupCount
  | .seq p q | .alt p q => max p.groupCount q.groupCount
  | .rep p _ _ _ => p.groupCount

/-- What can be wrong with the text of a pattern. -/
inductive Malformed where
  | unclosedGroup
  | unopenedGroup
  | unclosedClass
  | nothingToRepeat
  | badCount
  | badEscape
  | badCodePoint
  | unknownProperty
  | badFlags
  | badGroupName
  | repeatedGroupName
  | lookAround
  | badRange
  | notACharacter
  | notText
  | unexpectedEnd
  | tooLarge
deriving DecidableEq, Repr

end Pattern

end LineScopes
