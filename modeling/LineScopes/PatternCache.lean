/-
Compiling each pattern once.

* `Engine.matcher` — the matcher of a pattern of the grammar;
* `Engine.resolvedMatcher` — the matcher of a resolved pattern.

A pattern that is held is not compiled again, and one that the engine refuses is not
held.  Resolved patterns depend on the text of the document and would pile up without
end, so all of them are dropped when another one is asked for and `resolvedLimit` are
held.
-/
import LineScopes.Engine

namespace LineScopes

/-- The largest number of resolved patterns held. -/
def resolvedLimit : Nat := 64

namespace Engine

variable {ε M : Type}

/-- Compiles a pattern. -/
def compileNow (engine : Engine ε M) (pattern : String) : Session ε M M := do
  match engine.compile pattern with
  | .ok matcher =>
    Session.report [.compiling pattern, .compiled pattern true]
    pure matcher
  | .error e =>
    Session.report [.compiling pattern, .compiled pattern false]
    Session.fail e

/-- The matcher of a pattern of the grammar, compiled when it is first asked for. -/
def matcher (engine : Engine ε M) (pattern : String) : Session ε M M := do
  match (← Session.held).grammar.lookup pattern with
  | some matcher => pure matcher
  | none =>
    let matcher ← engine.compileNow pattern
    let cache ← Session.held
    Session.hold { cache with grammar := (pattern, matcher) :: cache.grammar }
    pure matcher

/-- Drops all resolved patterns if no more of them may be held. -/
def makeRoom : Session ε M Unit := do
  let cache ← Session.held
  if resolvedLimit ≤ cache.resolved.length then
    Session.report [.droppingResolved cache.resolved.length]
    Session.hold { cache with resolved := [] }

/-- The matcher of a resolved pattern, compiled when it is first asked for or was dropped since. -/
def resolvedMatcher (engine : Engine ε M) (pattern : String) : Session ε M M := do
  match (← Session.held).resolved.lookup pattern with
  | some matcher => pure matcher
  | none =>
    makeRoom
    let matcher ← engine.compileNow pattern
    let cache ← Session.held
    Session.hold { cache with resolved := (pattern, matcher) :: cache.resolved }
    pure matcher

end Engine

end LineScopes
