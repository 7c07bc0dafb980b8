/-
The rules that are open at some place of a document.

A `StateStack` holds the root state and, outermost first, the states opened inside
it.  It is all that one line hands to the next.

* `push`, `pop`, `top`, `depth` — the root is never popped;
* `scopeNames`, `ambientScopeNames` — the scopes of all states, and of all but the
  innermost;
* `save` and `SavedStack.load` — the form in which a stack is kept between lines,
  where scope names are text.
-/
import LineScopes.Grammar

namespace LineScopes

/-! ### States -/

/-- An open rule, the scope it lends to what is inside, and the closing pattern if that depends on
what opened it. -/
structure OpenState where
  rule : RuleId
  scope : Option ScopeName
  closing : Option String
deriving DecidableEq

/-- The open rules: the root, and the others from the outermost to the innermost. -/
structure StateStack where
  root : OpenState
  nested : List OpenState
deriving DecidableEq

namespace StateStack

/-- The stack at the beginning of a document. -/
def initial (g : Grammar) : StateStack :=
  ⟨⟨g.root, (g.rule? g.root).bind Rule.scope, none⟩, []⟩

/-- The innermost state. -/
def top (s : StateStack) : OpenState := s.nested.getLast?.getD s.root

/-- Opens a state inside the innermost one. -/
def push (s : StateStack) (state : OpenState) : StateStack :=
  { s with nested := s.nested ++ [state] }

/-- Closes the innermost state, unless it is the root. -/
def pop (s : StateStack) : StateStack := { s with nested := s.nested.dropLast }

/-- The state that `pop` closes. -/
def popped? (s : StateStack) : Option OpenState := s.nested.getLast?

/-- All states, outermost first. -/
def states (s : StateStack) : List OpenState := s.root :: s.nested

/-- The number of states. -/
def depth (s : StateStack) : Nat := s.nested.length + 1

/-- The scopes of all states, outermost first. -/
def scopeNames (s : StateStack) : List ScopeName := s.states.filterMap OpenState.scope

/-- The scopes of all states but the innermost. -/
def ambientScopeNames (s : StateStack) : List ScopeName :=
  s.states.dropLast.filterMap OpenState.scope

@[simp] theorem states_push (s : StateStack) (state : OpenState) :
    (s.push state).states = s.states ++ [state] := rfl

@[simp] theorem top_push (s : StateStack) (state : OpenState) : (s.push state).top = state := by
  simp [top, push]

@[simp] theorem pop_push (s : StateStack) (state : OpenState) : (s.push state).pop = s := by
  simp [pop, push]

@[simp] theorem length_states (s : StateStack) : s.states.length = s.depth := rfl

theorem getLast?_states (s : StateStack) : s.states.getLast? = some s.top := by
  rw [states, top, List.getLast?_cons]

/-- The innermost state lies on the states that lend the ambient scopes. -/
theorem dropLast_states_append_top (s : StateStack) : s.states.dropLast ++ [s.top] = s.states := by
  obtain ⟨h, htop⟩ := List.getLast?_eq_some_iff.mp s.getLast?_states
  rw [htop, List.dropLast_concat]

end StateStack

/-! ### Saved form -/

/-- A state whose scope name is text. -/
structure SavedState where
  rule : Nat
  scope : Option String
  closing : Option String
deriving DecidableEq, Repr

/-- A stack whose scope names are text. -/
structure SavedStack where
  root : SavedState
  nested : List SavedState
deriving DecidableEq, Repr

/-- The state with its scope name written out. -/
def OpenState.save (s : OpenState) : SavedState :=
  ⟨s.rule, s.scope.map ScopeName.toText, s.closing⟩

/-- The state with its scope name read. -/
def SavedState.load (s : SavedState) : OpenState :=
  ⟨s.rule, s.scope.map ScopeName.ofString, s.closing⟩

/-- The stack with its scope names written out. -/
def StateStack.save (s : StateStack) : SavedStack := ⟨s.root.save, s.nested.map OpenState.save⟩

/-- The stack with its scope names read. -/
def SavedStack.load (s : SavedStack) : StateStack := ⟨s.root.load, s.nested.map SavedState.load⟩

end LineScopes
