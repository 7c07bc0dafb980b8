/-
Searching a line with a program.

The search goes through the line once, with a list of threads that are at some
instruction each, in the order of preference.  A match that begins earlier is preferred
to one that begins later; among those that begin at one place, the choices in the
program decide.

* `Program.search` — the match that is preferred among those at or after a byte.

Design notes: two threads at one instruction have the same future, so only the
preferred one goes on; this also ends loops that take no character.  An instruction is
marked with the number of the turn in which it was seen last (`marks`), so that the marks
need not be cleared from turn to turn.
-/
import LineScopes.Match
import LineScopes.Pattern.Program

namespace LineScopes.Pattern

/-! ### Threads -/

/-- A way through the program: the next instruction, where the match began, and the places noted. -/
structure Thread where
  instr : Nat
  start : Nat
  notes : Array (Option Nat)

/-- A place in a line: its byte and the characters before and after it. -/
structure Spot where
  pos : Nat
  before : Option Char
  after : Option Char

/-- The number of instructions that were not seen in a turn. -/
def unseen (turn : Nat) (marks : Array Nat) : Nat := marks.countP (· != turn)

theorem unseen_set_lt {turn mark i : Nat} {marks : Array Nat} (h : marks[i]? = some mark)
    (hmark : mark ≠ turn) : unseen turn (marks.setIfInBounds i turn) < unseen turn marks := by
  obtain ⟨hi, hget⟩ := Array.getElem?_eq_some_iff.mp h
  have hi' : i < marks.toList.length := by simpa using hi
  have hget' : marks.toList[i] = mark := by simpa using hget
  have hpos : 0 < marks.toList.countP (· != turn) :=
    List.countP_pos_iff.mpr ⟨_, List.getElem_mem hi', by simpa [hget'] using hmark⟩
  have hne : (mark != turn) = true := by simpa using hmark
  rw [unseen, unseen, ← Array.countP_toList, ← Array.countP_toList, Array.toList_setIfInBounds,
    List.countP_set hi', hget', hne, bne_self_eq_false]
  simp only [if_true, Bool.false_eq_true, if_false]
  omega

/-- What comes of the threads at a spot: those that took the next character, in order, the first one
that accepts, and the marks. -/
structure Followed where
  moved : List Thread
  hit : Option Thread
  marks : Array Nat

/-- Follows the threads at a spot until each has taken the next character or failed.  A thread that
accepts ends all threads after it.  Those that took the character are in `moved`, last first. -/
def follow (code : Array Instr) (spot : Spot) (turn : Nat) (marks : Array Nat)
    (moved : List Thread) (threads : List Thread) : Followed :=
  match threads with
  | [] => ⟨moved.reverse, none, marks⟩
  | t :: rest =>
    match h : marks[t.instr]? with
    | none => follow code spot turn marks moved rest
    | some mark =>
      if hmark : mark = turn then follow code spot turn marks moved rest
      else
        have := unseen_set_lt h hmark
        let marks' := marks.setIfInBounds t.instr turn
        match code[t.instr]? with
        | none => follow code spot turn marks' moved rest
        | some .accept => ⟨moved.reverse, some t, marks'⟩
        | some (.take s next) =>
          if spot.after.any s.contains then
            follow code spot turn marks' ({ t with instr := next } :: moved) rest
          else follow code spot turn marks' moved rest
        | some (.check l next) =>
          if l.holds spot.before spot.after then
            follow code spot turn marks' moved ({ t with instr := next } :: rest)
          else follow code spot turn marks' moved rest
        | some (.note slot next) =>
          let notes := t.notes.setIfInBounds slot (some spot.pos)
          follow code spot turn marks' moved ({ t with instr := next, notes := notes } :: rest)
        | some (.split first second) =>
          follow code spot turn marks' moved
            ({ t with instr := first } :: { t with instr := second } :: rest)
termination_by 2 * unseen turn marks + threads.length

/-! ### Search -/

/-- The match of a thread that accepts at a byte. -/
def Thread.found (t : Thread) (groups stop : Nat) : Match :=
  let note (slot : Nat) : Option Nat := t.notes[slot]?.join
  let group (i : Nat) : Option Span :=
    (note (2 * i)).bind fun start => (note (2 * i + 1)).map fun stop => ⟨start, stop⟩
  ⟨⟨t.start, stop⟩, (List.range groups).map group⟩

namespace Program

/-- A thread that begins at a byte. -/
def thread (p : Program) (pos : Nat) : Thread :=
  ⟨p.entry, pos, Array.replicate (2 * p.groups) none⟩

/-- Goes through a line from byte `pos` on, behind the character `before`.  `best` is the match
preferred so far; no thread begins once there is one. -/
def scan (p : Program) (turn : Nat) (marks : Array Nat) (pos : Nat) (before : Option Char)
    (threads : List Thread) (best : Option Match) (text : List Char) : Option Match :=
  let threads := if best.isNone then threads ++ [p.thread pos] else threads
  let r := follow p.code ⟨pos, before, text.head?⟩ turn marks [] threads
  let best := (r.hit.map fun t => t.found p.groups pos).or best
  match text with
  | [] => best
  | c :: cs =>
    if r.moved.isEmpty && best.isSome then best
    else p.scan (turn + 1) r.marks (pos + c.utf8Size) (some c) r.moved best cs

/-- The first place at or after byte `start`: its byte, the character before it, and the text after
it. -/
def placeFrom (start pos : Nat) (before : Option Char) :
    List Char → Option (Nat × Option Char × List Char)
  | [] => if start ≤ pos then some (pos, before, []) else none
  | c :: cs =>
    if start ≤ pos then some (pos, before, c :: cs)
    else placeFrom start (pos + c.utf8Size) (some c) cs

/-- The match that is preferred among those of a line that begin at byte `start` or after it. -/
def search (p : Program) (line : String) (start : Nat) : Option Match :=
  (placeFrom start 0 none line.toList).bind fun (pos, before, text) =>
    p.scan 1 (Array.replicate p.code.size 0) pos before [] none text

end Program

end LineScopes.Pattern
