/-
Layers of scopes over a match.

A match lays scopes over its text: one over all of it, and one over the text of each
named group, later groups on top.  Cut at every place where a layer begins or ends,
the match falls into pieces, and each piece has the scopes of the layers over it.

* `layers` — the layers of a match, clipped to it;
* `tokens` — the pieces as tokens, with no two neighbours alike.
-/
import LineScopes.Grammar
import LineScopes.Match

namespace LineScopes

/-- A stretch of a line and the scopes over it, outermost first. -/
structure Token where
  span : Span
  scopes : List ScopeName
deriving DecidableEq

namespace Layers

/-- A stretch of a line and the scope that lies over it, if any. -/
structure Layer where
  span : Span
  scope : Option ScopeName
deriving DecidableEq

/-! ### Laying -/

/-- The layer of a named group; there is none if no text of the match is in it. -/
def groupLayer? (found : Match) (capture : Nat × ScopeName) : Option Layer :=
  (found.group? capture.1).bind fun span =>
    let span := span.clip found.span
    if span.isEmpty then none else some ⟨span, some capture.2⟩

/-- The layers of a match: `bottom` over all of it, then those of the groups. -/
def layers (found : Match) (bottom : Option ScopeName) (captures : Captures) : List Layer :=
  ⟨found.span, bottom⟩ :: captures.entries.filterMap (groupLayer? found)

/-! ### Cutting -/

/-- Puts a number in its place in a list that ascends, unless it is there already. -/
def insertBound (n : Nat) : List Nat → List Nat
  | [] => [n]
  | m :: ms => if n < m then n :: m :: ms else if n = m then m :: ms else m :: insertBound n ms

/-- The places where a layer begins or ends, in ascending order. -/
def bounds (ls : List Layer) : List Nat :=
  ls.foldr (fun l bs => insertBound l.span.start (insertBound l.span.stop bs)) []

/-- The spans between neighbours. -/
def between : List Nat → List Span
  | m :: n :: ns => ⟨m, n⟩ :: between (n :: ns)
  | _ => []

/-- The scopes of the layers over a span, on top of the ambient ones. -/
def scopesOver (ambient : List ScopeName) (ls : List Layer) (span : Span) : List ScopeName :=
  ambient ++ (ls.filter fun l => l.span.covers span).filterMap Layer.scope

/-- Joins neighbours that touch and have equal scopes. -/
def join : List Token → List Token
  | [] => []
  | t :: ts =>
    match join ts with
    | [] => [t]
    | u :: us =>
      if t.span.stop = u.span.start ∧ t.scopes = u.scopes then
        ⟨⟨t.span.start, u.span.stop⟩, t.scopes⟩ :: us
      else t :: u :: us

/-- The pieces into which the layers cut their text. -/
def tokens (ambient : List ScopeName) (ls : List Layer) : List Token :=
  join ((between (bounds ls)).map fun span => ⟨span, scopesOver ambient ls span⟩)

end Layers

end LineScopes
