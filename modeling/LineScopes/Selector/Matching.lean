/-
Which stacks of scopes a selector selects.

A name consumes one scope of the stack, the operands of a conjunction consume scopes
further and further in, one of the operands of a disjunction does its part, and a
negation consumes nothing and demands that its operand fails on the whole stack.

* `Expression.selects`, `Alternative.selects`, `Selector.selects` — the three tests,
  for a matcher that compares names;
* `Selector.comparisons` — the comparisons that the test of a selector makes.

Design notes: `Expression.search` tries the possibilities one after the other.  It
keeps the first and the last scope consumed and where the next one may be (`Reach`),
and hands them to a continuation: when that refuses, the next possibility is tried.
The search runs in any monad, so that the comparisons it makes can be seen.
-/
import LineScopes.Selector.Expression

namespace LineScopes

/-! ### Matchers -/

/-- Decides whether a name in a selector accepts a scope. -/
abbrev Matcher := ScopeName → ScopeName → Bool

/-- A name accepts itself and whatever is more specific. -/
def Matcher.general : Matcher := ScopeName.isPrefixOf

/-- A name accepts itself alone. -/
def Matcher.exact : Matcher := fun n scope => n = scope

/-- Whether a text occurs in another one. -/
def occursIn (text : List Char) : List Char → Bool
  | [] => text.isEmpty
  | c :: cs => text.isPrefixOf (c :: cs) || occursIn text cs

/-- A name accepts the scopes whose text contains its own. -/
def Matcher.textual : Matcher := fun n scope => occursIn n.toText.toList scope.toText.toList

/-! ### Search -/

/-- How far into a stack the operands so far have reached. -/
structure Reach where
  /-- The first scope consumed. -/
  first : Option Nat
  /-- The last scope consumed. -/
  last : Option Nat
  /-- The first scope that may be consumed next. -/
  next : Nat
deriving DecidableEq, Repr

namespace Reach

/-- Nothing is consumed yet. -/
def start : Reach := ⟨none, none, 0⟩

/-- The scope at depth `i` is consumed. -/
def consume (r : Reach) (i : Nat) : Reach := ⟨r.first.or (some i), some i, i + 1⟩

end Reach

section Search

variable {m : Type → Type} [Monad m]

/-- Whether one of the scopes, the first of which is at depth `i`, is accepted by `accepts` and its
depth by `k`. -/
def seek (accepts : ScopeName → m Bool) (k : Nat → m Bool) (i : Nat) : List ScopeName → m Bool
  | [] => pure false
  | scope :: rest => do
    let hit ← accepts scope
    let ok ← if hit then k i else pure false
    if ok then pure true else seek accepts k (i + 1) rest

namespace Expression

mutual

/-- Whether the expression can consume scopes beyond `r` so that `k` accepts what is reached. -/
def search (accepts : ScopeName → ScopeName → m Bool) (stack : List ScopeName) (r : Reach)
    (k : Reach → m Bool) : Expression → m Bool
  | .name n => seek (accepts n) (fun i => k (r.consume i)) r.next (stack.drop r.next)
  | .not e => do
    let found ← search accepts stack .start (fun _ => pure true) e
    if found then pure false else k r
  | .all es => searchAll accepts stack r k es
  | .any es => searchAny accepts stack r k es

/-- Whether the expressions can consume scopes one after the other so that `k` accepts what is
reached in the end. -/
def searchAll (accepts : ScopeName → ScopeName → m Bool) (stack : List ScopeName) (r : Reach)
    (k : Reach → m Bool) : List Expression → m Bool
  | [] => k r
  | e :: es => search accepts stack r (fun r => searchAll accepts stack r k es) e

/-- Whether one of the expressions can consume scopes so that `k` accepts what is reached. -/
def searchAny (accepts : ScopeName → ScopeName → m Bool) (stack : List ScopeName) (r : Reach)
    (k : Reach → m Bool) : List Expression → m Bool
  | [] => pure false
  | e :: es => do
    let found ← search accepts stack r k e
    if found then pure true else searchAny accepts stack r k es

end

end Expression

/-- Whether the anchor allows what is reached in a stack of the given depth. -/
def Anchor.admits (depth : Nat) (r : Reach) : Anchor → Bool
  | .free => true
  | .left => r.first.all (· == 0)
  | .right => r.last.all (· + 1 == depth)

/-- Whether the expression is satisfied and its anchor allows it. -/
def Alternative.search (accepts : ScopeName → ScopeName → m Bool) (stack : List ScopeName)
    (a : Alternative) : m Bool :=
  a.expression.search accepts stack .start fun r => pure (a.anchor.admits stack.length r)

/-- Whether one of the alternatives is satisfied. -/
def Alternative.searchAny (accepts : ScopeName → ScopeName → m Bool) (stack : List ScopeName) :
    List Alternative → m Bool
  | [] => pure false
  | a :: as => do
    let found ← a.search accepts stack
    if found then pure true else searchAny accepts stack as

end Search

/-! ### Tests -/

/-- Whether the expression holds of a stack, wherever the scopes it consumes are. -/
def Expression.selects (accepts : Matcher) (stack : List ScopeName) (e : Expression) : Bool :=
  Id.run (e.search (fun n scope => pure (accepts n scope)) stack .start fun _ => pure true)

/-- Whether the alternative holds of a stack. -/
def Alternative.selects (accepts : Matcher) (stack : List ScopeName) (a : Alternative) : Bool :=
  Id.run (a.search (fun n scope => pure (accepts n scope)) stack)

/-- Whether the selector holds of a stack. -/
def Selector.selects (accepts : Matcher) (stack : List ScopeName) (s : Selector) : Bool :=
  Id.run (Alternative.searchAny (fun n scope => pure (accepts n scope)) stack s.alternatives)

/-- The pairs of a name and a scope that are compared when the selector is tested, in order. -/
def Selector.comparisons (accepts : Matcher) (stack : List ScopeName) (s : Selector) :
    List (ScopeName × ScopeName) :=
  let ask (n scope : ScopeName) : StateM (List (ScopeName × ScopeName)) Bool := do
    modify ((n, scope) :: ·)
    pure (accepts n scope)
  ((Alternative.searchAny ask stack s.alternatives).run []).2.reverse

end LineScopes
