/-
Reading a selector.

    selector    := alternative (',' alternative)*
    alternative := ('L:' | 'R:')? operand*
    operand     := '-' operand | '(' operand (('|' | ',') operand)* ')' | name

* `Selector.parse` reads a text.  It stops without complaint at the first token that
  cannot go on with the selector, as long as no operand is owed and no parenthesis
  is open; otherwise it fails with a `SyntaxError`.

Design notes: the reader takes one token at a time, and its `State` is all it
remembers.  Operators wait in frames for their operand: an operand that is complete
closes the negations in front of it, and joins the innermost open parenthesis or, if
there is none, the alternative that is being read.  What has been read is kept last
first.
-/
import LineScopes.Selector.Expression
import LineScopes.Selector.Token

namespace LineScopes.Selector

/-! ### Errors -/

/-- What can be wrong with a selector. -/
inductive Fault where
  /-- A minus sign is not followed by an operand. -/
  | negationWithoutOperand
  /-- An opening parenthesis is not followed by an operand. -/
  | groupWithoutOperand
  /-- A separator in parentheses is not followed by an operand. -/
  | separatorWithoutOperand
  /-- A parenthesis is opened and not closed. -/
  | unclosedGroup
deriving DecidableEq, Repr

/-- What is wrong, in words. -/
def Fault.text : Fault → String
  | .negationWithoutOperand => "expected operand after negation"
  | .groupWithoutOperand => "expected operand in group"
  | .separatorWithoutOperand => "expected operand after alternative separator"
  | .unclosedGroup => "unclosed group"

/-- What is wrong with a selector, and at which byte. -/
structure SyntaxError where
  fault : Fault
  position : Nat
deriving DecidableEq, Repr

/-- What is wrong and where, in words. -/
def SyntaxError.message (e : SyntaxError) : String :=
  e.fault.text ++ " at byte " ++ toString e.position ++ " (zero-based)"

/-! ### States -/

/-- An operator that is waiting for an operand. -/
inductive Frame where
  /-- A minus sign. -/
  | negation
  /-- A parenthesis opened at a byte, with the operands read in it so far, last first. -/
  | group (start : Nat) (operands : List Expression)

/-- What the reader is in the middle of. -/
inductive Spot where
  /-- Between two operands of an alternative, outside all parentheses. -/
  | outside
  /-- Behind a sign that needs an operand; the fault is the one of its absence. -/
  | owing (fault : Fault) (frames : List Frame)
  /-- Behind an operand in the parenthesis opened at a byte; its operands so far, last first. -/
  | inside (start : Nat) (operands : List Expression) (frames : List Frame)

/-- All that the reader remembers. -/
structure State where
  /-- The alternatives that are complete, last first. -/
  done : List Alternative
  /-- The anchor of the alternative being read. -/
  anchor : Anchor
  /-- The operands of the alternative being read, last first. -/
  operands : List Expression
  /-- The place in that alternative. -/
  spot : Spot

/-- The state before the first token. -/
def State.initial : State := ⟨[], .free, [], .outside⟩

/-- The alternatives read so far, the one being read included, last first. -/
def State.alternatives (s : State) : List Alternative :=
  ⟨s.anchor, .all s.operands.reverse⟩ :: s.done

/-- The selector read so far. -/
def State.selector (s : State) : Selector := ⟨s.alternatives.reverse⟩

/-- The state after the operand `e`, given the frames that wait for it, innermost first. -/
def State.complete (s : State) (e : Expression) : List Frame → State
  | [] => { s with operands := e :: s.operands, spot := .outside }
  | .negation :: frames => s.complete (.not e) frames
  | .group start operands :: frames => { s with spot := .inside start (e :: operands) frames }

/-- The state after a token with which an operand can begin, and `none` after any other. -/
def State.operand? (s : State) (frames : List Frame) (t : Token) : Option State :=
  match t.kind with
  | .minus => some { s with spot := .owing .negationWithoutOperand (.negation :: frames) }
  | .opening => some { s with spot := .owing .groupWithoutOperand (.group t.start [] :: frames) }
  | .name text => some (s.complete (.name (.ofString (String.ofList text))) frames)
  | _ => none

/-- What comes of a token: a new state, the end of the selector before the token, or an error. -/
inductive Step where
  | go (s : State)
  | stop
  | fail (e : SyntaxError)

/-- Reads one token. -/
def State.step (s : State) (t : Token) : Step :=
  match s.spot with
  | .outside =>
    match s.operand? [] t with
    | some s => .go s
    | none =>
      let fresh := s.anchor = .free ∧ s.operands = []
      match t.kind with
      | .comma => .go ⟨s.alternatives, .free, [], .outside⟩
      | .left => if fresh then .go { s with anchor := .left } else .stop
      | .right => if fresh then .go { s with anchor := .right } else .stop
      | _ => .stop
  | .owing fault frames =>
    match s.operand? frames t with
    | some s => .go s
    | none => .fail ⟨fault, t.start⟩
  | .inside start operands frames =>
    match t.kind with
    | .bar | .comma =>
      .go { s with spot := .owing .separatorWithoutOperand (.group start operands :: frames) }
    | .closing => .go (s.complete (.any operands.reverse) frames)
    | _ => .fail ⟨.unclosedGroup, start⟩

/-! ### Reading -/

/-- A selector and, if tokens are left over, the byte of the first of them. -/
structure Parsed where
  selector : Selector
  stoppedAt : Option Nat
deriving DecidableEq

/-- What the state makes of the end of the text, at byte `size`. -/
def State.finish (s : State) (size : Nat) : Except SyntaxError Parsed :=
  match s.spot with
  | .outside => .ok ⟨s.selector, none⟩
  | .owing fault _ => .error ⟨fault, size⟩
  | .inside start _ _ => .error ⟨.unclosedGroup, start⟩

/-- Reads tokens up to the end of the text, at byte `size`. -/
def State.run (s : State) (size : Nat) : List Token → Except SyntaxError Parsed
  | [] => s.finish size
  | t :: ts =>
    match s.step t with
    | .go s => s.run size ts
    | .stop => .ok ⟨s.selector, some t.start⟩
    | .fail e => .error e

/-- Reads the selector that a text begins with. -/
def parse (source : String) : Except SyntaxError Parsed :=
  State.initial.run source.utf8ByteSize (scan source.toList)

end LineScopes.Selector
