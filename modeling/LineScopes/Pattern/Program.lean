/-
Programs that look for a pattern.

A program is a list of instructions, each with the positions of those that may come next.

* `Program.ofPattern?` — the program that looks for a pattern;
* `codeSize` — a bound on how long it is, `sizeLimit` how long it may be.

Design notes: a pattern is compiled in front of instructions that are there already,
and its code is entered at the position that `emit` gives.  A repetition without upper
bound is `p+`, whose last instruction goes back to its first or on.  If `p` always takes
text, `p*` is that code entered at its last instruction; if not, `p*` is `p+` or nothing,
so that a way through `p` without text is the same at the beginning and later on.  Where
a choice is made, the instruction names the preferred way first.
-/
import LineScopes.Pattern.Combine

namespace LineScopes.Pattern

/-- An instruction, with what may come next. -/
inductive Instr where
  /-- The pattern has matched. -/
  | accept
  /-- Takes a character of the set. -/
  | take (s : CodeSet) (next : Nat)
  /-- Goes on if the condition holds. -/
  | check (l : Look) (next : Nat)
  /-- Notes the place. -/
  | note (slot : Nat) (next : Nat)
  /-- Goes on in one of two ways, preferably in the first. -/
  | split (first second : Nat)

/-- Instructions, the position of the first to be executed, and the number of groups. -/
structure Program where
  code : Array Instr
  entry : Nat
  groups : Nat

/-! ### Compilation -/

/-- The choice between a way to be preferred by greed and the other one. -/
def choice (greedy : Bool) (more enough : Nat) : Instr :=
  if greedy then .split more enough else .split enough more

/-- Emits code `n` times, each in front of the one before. -/
def emitTimes (emitOne : Nat → Array Instr → Nat × Array Instr) :
    Nat → Nat → Array Instr → Nat × Array Instr
  | 0, next, code => (next, code)
  | n + 1, next, code =>
    let (entry, code) := emitOne next code
    emitTimes emitOne n entry code

/-- Emits code `n` times, each in front of the one before, so that in front of each one may go to
`exit` instead. -/
def emitOptional (emitOne : Nat → Array Instr → Nat × Array Instr) (greedy : Bool) (exit : Nat) :
    Nat → Nat → Array Instr → Nat × Array Instr
  | 0, next, code => (next, code)
  | n + 1, next, code =>
    let (entry, code) := emitOne next code
    emitOptional emitOne greedy exit n code.size (code.push (choice greedy entry exit))

/-- Emits code that goes back to its beginning or on to `next`. -/
def emitLoop (emitOne : Nat → Array Instr → Nat × Array Instr) (greedy : Bool) (next : Nat)
    (code : Array Instr) : Nat × Array Instr :=
  let back := code.size
  let (entry, code) := emitOne back (code.push .accept)
  (entry, code.setIfInBounds back (choice greedy entry next))

/-- Emits the code of a pattern in front of `next`, and gives the position to enter it. -/
def emit : Pattern → Nat → Array Instr → Nat × Array Instr
  | .empty, next, code => (next, code)
  | .chars s _, next, code => (code.size, code.push (.take s next))
  | .look l, next, code => (code.size, code.push (.check l next))
  | .group i p, next, code =>
    let (entry, code) := emit p code.size (code.push (.note (2 * i - 1) next))
    (code.size, code.push (.note (2 * i - 2) entry))
  | .seq p q, next, code =>
    let (entry, code) := emit q next code
    emit p entry code
  | .alt p q, next, code =>
    let (second, code) := emit q next code
    let (first, code) := emit p next code
    (code.size, code.push (.split first second))
  | .rep p min (some max) greedy, next, code =>
    let (entry, code) := emitOptional (emit p) greedy next (max - min) next code
    emitTimes (emit p) min entry code
  | .rep p min none greedy, next, code =>
    let back := code.size
    let (entry, code) := emitLoop (emit p) greedy next code
    if 0 < min then emitTimes (emit p) (min - 1) entry code
    else if p.takesText then (back, code)
    else (code.size, code.push (choice greedy entry next))

/-! ### Size -/

/-- A bound on the number of instructions of a pattern; only repetitions without upper bound may have
one less. -/
def codeSize : Pattern → Nat
  | .empty => 0
  | .chars _ _ | .look _ => 1
  | .group _ p => codeSize p + 2
  | .seq p q => codeSize p + codeSize q
  | .alt p q => codeSize p + codeSize q + 1
  | .rep p min (some max) _ => min * codeSize p + (max - min) * (codeSize p + 1)
  | .rep p min none _ => Nat.max min 1 * codeSize p + 2

/-- The largest number of instructions that code may have. -/
def sizeLimit : Nat := 1 <<< 22

/-- The program of a pattern, unless it is too large. -/
def Program.ofPattern? (p : Pattern) : Except Malformed Program :=
  if sizeLimit < codeSize p then .error .tooLarge
  else
    let (entry, code) := emit p 0 #[.accept]
    .ok ⟨code, entry, p.groupCount⟩

end LineScopes.Pattern
