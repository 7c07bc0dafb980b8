/-
Tokenizing lines.

A line is worked through from its first byte.  Each turn collects the plans for the
open states, lets the engine find the one that matches first, gives the text before the
match the scopes of the open states, and applies the match.

* `Tokenizer.line` — the run through one line, from which its tokens and the stack for
  the next line are read off;
* `Tokenizer.lines` — the runs through consecutive lines.

Design notes: a match without text may change the stack, but the same one may be applied
only once at a byte; the second time ends the line.  So every turn uses up either text
or one of finitely many such matches, as long as the engine keeps to the rest of the
line.  `turnLimit` is above the number of turns that this allows, with some to spare for
an engine that does not.
-/
import LineScopes.BackReference
import LineScopes.Layers
import LineScopes.Plan

namespace LineScopes

/-! ### Runs -/

/-- A match that was applied: the stack before it, the text in front of it that nothing matched,
and its own tokens. -/
structure Applied where
  choice : Choice
  before : StateStack
  gap : List Token
  tokens : List Token
deriving DecidableEq

/-- Why a line came to its end. -/
inductive Ending where
  /-- No plan matches any more. -/
  | noMatch
  /-- A match without text was found a second time at the same byte. -/
  | repeated (choice : Choice)
  /-- The line is longer than allowed, and was not looked at. -/
  | tooLong
  /-- The engine left the line too often. -/
  | astray
deriving DecidableEq

/-- The way through a line: the matches applied in order, the end, the tokens after the last match,
and the stack in the end. -/
structure LineRun where
  applied : List Applied
  ending : Ending
  rest : List Token
  stack : StateStack
deriving DecidableEq

/-- The tokens of a line, in order. -/
def LineRun.tokens (r : LineRun) : List Token :=
  r.applied.flatMap (fun a => a.gap ++ a.tokens) ++ r.rest

/-- A place in a line: the byte, the stack, the matches without text applied so far, and all
matches applied so far, last first. -/
structure Place where
  pos : Nat
  stack : StateStack
  empties : List (Nat × PlanKind × RuleId)
  applied : List Applied

/-- The place before the first byte. -/
def Place.first (stack : StateStack) : Place := ⟨0, stack, [], []⟩

/-! ### Tokens -/

/-- The text between two bytes as a token with the scopes of the open states; none if there is no
text. -/
def stretch (start stop : Nat) (stack : StateStack) : List Token :=
  if start < stop then [⟨⟨start, stop⟩, stack.scopeNames⟩] else []

/-- The tokens of a match, whose text belongs to the innermost state. -/
def matchTokens (found : Match) (captures : Captures) (stack : StateStack) : List Token :=
  Layers.tokens stack.ambientScopeNames (Layers.layers found stack.top.scope captures)

/-! ### Applying a match -/

/-- What a match does: its tokens, and the stack after it. -/
structure Effect where
  tokens : List Token
  stack : StateStack
  events : List Event

/-- The state that a match in a line opens. -/
def openedState (rule : Rule) (line : String) (choice : Choice) : OpenState :=
  ⟨choice.rule, rule.scope,
    rule.delimiters?.bind fun d => BackReference.resolve? d.closing line choice.found⟩

/-- Applies a match of a rule in a line. -/
def applyRule (rule : Rule) (line : String) (choice : Choice) (stack : StateStack) : Effect :=
  match choice.kind with
  | .plain =>
    ⟨matchTokens choice.found rule.captures (stack.push ⟨choice.rule, rule.scope, none⟩), stack,
      []⟩
  | .opening =>
    let inner := stack.push (openedState rule line choice)
    match rule.delimiters? with
    | some d => ⟨matchTokens choice.found d.openingCaptures inner, inner, []⟩
    | none => ⟨[], inner, []⟩
  | .closing =>
    let events := if stack.popped?.isNone then [.rootClosed] else []
    match rule.delimiters? with
    | some d => ⟨matchTokens choice.found d.closingCaptures stack, stack.pop, events⟩
    | none => ⟨[], stack.pop, events⟩

/-- Applies a match in a line. -/
def applyChoice (g : Grammar) (line : String) (choice : Choice) (stack : StateStack) : Effect :=
  let event := .applying choice.kind choice.rule choice.found.span
  match g.rule? choice.rule with
  | none => ⟨[], stack, [event, .appliedRuleMissing choice.rule]⟩
  | some rule =>
    let effect := applyRule rule line choice stack
    { effect with events := event :: effect.events }

/-! ### The tokenizer -/

/-- A grammar, an engine for its patterns, and a limit on the bytes of a line. -/
structure Tokenizer (ε M : Type) where
  grammar : Grammar
  engine : Engine ε M
  limit : Option Nat

/-- The turns beyond those of an engine that keeps to the rest of the line. -/
def spareTurns : Nat := 65536

/-- More turns than a line of the given size can take. -/
def turnLimit (g : Grammar) (size : Nat) : Nat :=
  size + 2 * (size + 1) * g.size + 1 + spareTurns

namespace Tokenizer

variable {ε M : Type}

/-- The end of a line of the given size at a place. -/
def finish (size : Nat) (ending : Ending) (p : Place) : LineRun :=
  ⟨p.applied.reverse, ending, stretch p.pos size p.stack, p.stack⟩

/-- One turn: the place after the next match, or the end of the line. -/
def turn (t : Tokenizer ε M) (line : String) (p : Place) : Session ε M (Place ⊕ LineRun) := do
  Session.report (t.grammar.remarks p.stack)
  let choice ← t.engine.choose (t.grammar.plans p.stack) line p.pos
  match choice with
  | none => pure (.inr (finish line.utf8ByteSize .noMatch p))
  | some choice =>
    let start := choice.found.span.start
    let gap := stretch p.pos start p.stack
    let empty := (start, choice.kind, choice.rule)
    if choice.found.isEmpty ∧ empty ∈ p.empties then
      Session.report [.repeatedEmptyMatch choice.kind choice.rule start]
      let rest := gap ++ stretch start line.utf8ByteSize p.stack
      pure (.inr ⟨p.applied.reverse, .repeated choice, rest, p.stack⟩)
    else
      let effect := applyChoice t.grammar line choice p.stack
      Session.report effect.events
      pure (.inl
        { pos := choice.found.span.stop
          stack := effect.stack
          empties := if choice.found.isEmpty then empty :: p.empties else p.empties
          applied := ⟨choice, p.stack, gap, effect.tokens⟩ :: p.applied })

/-- Takes turns from a place on, at most the given number. -/
def takeTurns (t : Tokenizer ε M) (line : String) : Nat → Place → Session ε M LineRun
  | 0, p => pure (finish line.utf8ByteSize .astray p)
  | n + 1, p => do
    match ← t.turn line p with
    | .inl p => t.takeTurns line n p
    | .inr r => pure r

/-- The run through a line with the given states open at its beginning. -/
def line (t : Tokenizer ε M) (line : String) (stack : StateStack) : Session ε M LineRun :=
  let size := line.utf8ByteSize
  match t.limit.filter (· < size) with
  | some limit => do
    Session.report [.lineTooLong size limit]
    pure (finish size .tooLong (.first stack))
  | none => t.takeTurns line (turnLimit t.grammar size) (.first stack)

/-- The runs through consecutive lines, each with the states that the one before left open, and the
stack in the end. -/
def lines (t : Tokenizer ε M) : List String → StateStack →
    Session ε M (List LineRun × StateStack)
  | [], stack => pure ([], stack)
  | l :: ls, stack => do
    let run ← t.line l stack
    let (runs, stack) ← t.lines ls run.stack
    pure (run :: runs, stack)

/-- A limit as an outline shows it. -/
def limitOutline : Option Nat → String
  | some n => "Some(" ++ toString n ++ ")"
  | none => "None"

/-- The tokenizer in words, given the patterns it holds. -/
def outline (t : Tokenizer ε M) (cache : PatternCache M) : String :=
  "Tokenizer \x7b rules: " ++ toString t.grammar.size ++
    ", compiled_patterns: " ++ toString cache.size ++
    ", options: TokenizerOptions \x7b max_line_length: " ++ limitOutline t.limit ++ " \x7d, .. \x7d"

end Tokenizer

end LineScopes
