/-
Plans: what may be matched next, and what it would do.

While a rule is open, the plans are its closing pattern, if it has one, and then the
patterns of the rules listed in it.  References and containers among these stand for
what they refer to or list; each of them is expanded at most once, so that cycles
come to an end.

* `collect` — the plans for a stack, in order, and what is odd about the grammar on
  the way;
* `Engine.choose` — the plan that matches first in a line, with its match.

Design notes: the rules to look at form a work list.  A reference or a container that
is expanded puts its rules at the front of it, so the order is that of the text.
-/
import LineScopes.PatternCache
import LineScopes.StateStack

namespace LineScopes

/-! ### Collecting plans -/

/-- A pattern to search for, with its rule and what it does.  A resolved pattern depends on the
match that opened the rule. -/
structure Plan where
  kind : PlanKind
  rule : RuleId
  pattern : String
  resolved : Bool
deriving DecidableEq, Repr

/-- What is found while plans are collected. -/
inductive Finding where
  | plan (p : Plan)
  | remark (e : Event)
deriving DecidableEq, Repr

/-- The plan, if this is one. -/
def Finding.plan? : Finding → Option Plan
  | .plan p => some p
  | .remark _ => none

/-- The remark, if this is one. -/
def Finding.remark? : Finding → Option Event
  | .plan _ => none
  | .remark e => some e

namespace Grammar

/-- The rules that are not in `expanded`. -/
def unexpanded (g : Grammar) (expanded : List RuleId) : List RuleId :=
  (List.range g.size).filter fun id => id ∉ expanded

theorem length_unexpanded_lt (g : Grammar) {expanded : List RuleId} {id : RuleId} {rule : Rule}
    (hrule : g.rule? id = some rule) (hid : id ∉ expanded) :
    (g.unexpanded (id :: expanded)).length < (g.unexpanded expanded).length := by
  have hmem : id ∈ g.unexpanded expanded := by
    obtain ⟨h, -⟩ := Array.getElem?_eq_some_iff.mp hrule
    simp [unexpanded, size, hid, h]
  have heq : g.unexpanded (id :: expanded) =
      (g.unexpanded expanded).filter fun i => i ≠ id := by
    simp only [unexpanded, List.filter_filter]
    congr 1
    funext i
    simp
  rw [heq]
  exact List.length_filter_lt_length_iff_exists.mpr ⟨id, hmem, by simp⟩

/-- What is found by looking at the rules of the work list, where those in `expanded` are not to be
expanded again. -/
def expand (g : Grammar) (expanded : List RuleId) (work : List RuleId) : List Finding :=
  match work with
  | [] => []
  | id :: rest =>
    match h : g.rule? id with
    | none => .remark (.listedRuleMissing id) :: g.expand expanded rest
    | some rule =>
      match rule.kind with
      | .plain pattern _ => .plan ⟨.plain, id, pattern, false⟩ :: g.expand expanded rest
      | .region d => .plan ⟨.opening, id, d.opening, false⟩ :: g.expand expanded rest
      | .reference target =>
        if hid : id ∈ expanded then .remark (.referenceRepeated id) :: g.expand expanded rest
        else
          have := g.length_unexpanded_lt h hid
          g.expand (id :: expanded) (target :: rest)
      | .container =>
        if hid : id ∈ expanded then .remark (.containerRepeated id) :: g.expand expanded rest
        else
          have := g.length_unexpanded_lt h hid
          g.expand (id :: expanded) (rule.patterns ++ rest)
termination_by ((g.unexpanded expanded).length, work.length)

/-- The plan that closes an open state, if its rule is a region. -/
def closingPlan (s : OpenState) (rule : Rule) : List Finding :=
  match rule.delimiters? with
  | none => []
  | some d =>
    match s.closing with
    | some pattern => [.plan ⟨.closing, s.rule, pattern, true⟩]
    | none => [.plan ⟨.closing, s.rule, d.closing, false⟩]

/-- What is found for a stack: the plan that closes the innermost state, and those of the rules
listed in its rule. -/
def collect (g : Grammar) (s : StateStack) : List Finding :=
  match g.rule? s.top.rule with
  | none => [.remark (.openRuleMissing s.top.rule)]
  | some rule => closingPlan s.top rule ++ g.expand [s.top.rule] rule.patterns

/-- The plans for a stack, in order. -/
def plans (g : Grammar) (s : StateStack) : List Plan := (g.collect s).filterMap Finding.plan?

/-- What is odd about the grammar where the plans for a stack are collected. -/
def remarks (g : Grammar) (s : StateStack) : List Event := (g.collect s).filterMap Finding.remark?

end Grammar

/-! ### Choosing a plan -/

/-- A plan's kind and rule, with the match of its pattern. -/
structure Choice where
  kind : PlanKind
  rule : RuleId
  found : Match
deriving DecidableEq, Repr

namespace Engine

variable {ε M : Type}

/-- The matcher of a plan's pattern. -/
def planMatcher (engine : Engine ε M) (p : Plan) : Session ε M M :=
  if p.resolved then engine.resolvedMatcher p.pattern else engine.matcher p.pattern

/-- Compiles the patterns of all plans. -/
def prepare (engine : Engine ε M) : List Plan → Session ε M Unit
  | [] => pure ()
  | p :: ps => do
    let _ ← engine.planMatcher p
    engine.prepare ps

/-- Searches the plans in order for one that matches earlier than `best`.  A match at `start`
itself ends the search, since no other can be earlier. -/
def earliest (engine : Engine ε M) (line : String) (start : Nat) (best : Option Choice) :
    List Plan → Session ε M (Option Choice)
  | [] => pure best
  | p :: ps => do
    let matcher ← engine.planMatcher p
    let found := engine.search matcher line start
    Session.report [.searched p.pattern start (found.map Match.span)]
    match found with
    | none => engine.earliest line start best ps
    | some found =>
      if best.all fun b => found.span.start < b.found.span.start then
        let best := some ⟨p.kind, p.rule, found⟩
        if found.span.start = start then pure best
        else engine.earliest line start best ps
      else engine.earliest line start best ps

/-- The plan that matches first in a line from byte `start` on, the earlier plan among equals.  All
patterns are compiled before the first search, so a pattern that the engine refuses is an error
whatever the line holds. -/
def choose (engine : Engine ε M) (plans : List Plan) (line : String) (start : Nat) :
    Session ε M (Option Choice) := do
  engine.prepare plans
  engine.earliest line start none plans

end Engine

end LineScopes
