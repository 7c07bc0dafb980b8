/-
Matches of a pattern.
-/
import LineScopes.Text.Span

namespace LineScopes

/-- Where a pattern matched, and where each of its numbered groups did if it took part. -/
structure Match where
  span : Span
  /-- The groups from number 1 on. -/
  groups : List (Option Span)
deriving DecidableEq, Repr

namespace Match

/-- Whether the match consumed no text. -/
def isEmpty (m : Match) : Bool := m.span.isEmpty

/-- The span of a group; group 0 is the whole match. -/
def group? (m : Match) : Nat → Option Span
  | 0 => some m.span
  | i + 1 => m.groups[i]?.join

end Match

end LineScopes
