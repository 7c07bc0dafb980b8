/-
An engine that reads its matches from a table.

For every pattern the table lists matches; a search answers with the first one that
fits the line and the start.  A pattern that is not in the table does not compile.
-/
import LineScopes.Engine

namespace LineScopes.Scripted

/-- A match, and when it is the answer: in one line or in all, and for one start or for all up to
its own. -/
structure Entry where
  found : Match
  line : Option String
  start : Option Nat
deriving DecidableEq, Repr

/-- The entries of each pattern. -/
abbrev Table := List (String × List Entry)

/-- A pattern that is not in the table. -/
structure NoEntry where
  pattern : String
deriving DecidableEq, Repr

/-- The error in words. -/
def NoEntry.message (e : NoEntry) : String := "no table entry for " ++ e.pattern

/-- Whether the entry answers a search in a line from a byte on. -/
def Entry.fits (e : Entry) (line : String) (start : Nat) : Bool :=
  e.line.all (· == line) &&
    match e.start with
    | some n => n == start
    | none => start ≤ e.found.span.start

/-- The engine that answers from a table. -/
def engine (table : Table) : Engine NoEntry (List Entry) where
  compile pattern :=
    match table.lookup pattern with
    | some entries => .ok entries
    | none => .error ⟨pattern⟩
  search entries line start := (entries.find? fun e => e.fits line start).map Entry.found

end LineScopes.Scripted
