/-
Classes in brackets.

A class is written as a list of characters, ranges, escapes, ASCII classes such as
`[:alpha:]` and classes in brackets of their own.  Lists may be joined by `&&`, `--`
and `~~`, which take what is common, the difference, and what is in one list alone.

* `readClass` — reads a class behind its opening bracket.

Design notes: `classFrom` takes one character at a time and keeps the open brackets
and the operators that wait for their right side in frames.  A piece of several
characters tells it how many of the next ones to pass over.
-/
import LineScopes.Pattern.Escape

namespace LineScopes.Pattern

/-- An operator between two lists in a class. -/
inductive SetOp where
  | inter
  | diff
  | symmDiff
deriving DecidableEq, Repr

/-- What is left open around the list being read. -/
inductive ClassFrame where
  /-- A bracket, behind a list that was read so far. -/
  | bracket (before : CodeSet) (negated : Bool)
  /-- An operator, behind its left side. -/
  | operator (op : SetOp) (left : CodeSet)

/-- Applies an operator; case is made not to count on both sides before. -/
def SetOp.apply (f : Flags) (op : SetOp) (left right : CodeSet) : CodeSet :=
  let left := f.fold left
  let right := f.fold right
  match op with
  | .inter => left.inter right
  | .diff => left.diff right
  | .symmDiff => left.symmDiff right

/-- Gives the operator that waits, if any, its right side. -/
def applyWaiting (f : Flags) (current : CodeSet) (frames : List ClassFrame) :
    CodeSet × List ClassFrame :=
  match frames with
  | .operator op left :: frames => (op.apply f left current, frames)
  | frames => (current, frames)

/-! ### Items -/

/-- Reads an ASCII class behind its opening bracket; `none` if none is there. -/
def readAsciiClass? (f : Flags) (cs : List Char) :
    Option (Except Malformed (CodeSet × List Char)) :=
  match cs with
  | ':' :: cs =>
    let (negated, cs) := match cs with
      | '^' :: cs => (true, cs)
      | cs => (false, cs)
    let name := cs.takeWhile (· != ':')
    match cs.dropWhile (· != ':'), asciiClass? (String.ofList name) with
    | ':' :: ']' :: rest, some s => some do
      let s ← f.negate negated (f.fold s)
      .ok (s, rest)
    | _, _ => none
  | _ => none

/-- Reads one character or escape. -/
def readAtom (f : Flags) (cs : List Char) : Except Malformed (Atom × List Char) :=
  match cs with
  | [] => .error .unclosedClass
  | '\\' :: cs => readEscape f cs
  | c :: cs => .ok (.literal c false, cs)

/-- The character of an atom that stands for one.  Without Unicode it has to be an ASCII one. -/
def Atom.char (f : Flags) : Atom → Except Malformed Char
  | .literal c _ => if f.unicode || c.toNat < 0x80 then .ok c else .error .notText
  | _ => .error .badRange

/-- The set of an atom. -/
def Atom.set (f : Flags) : Atom → Except Malformed CodeSet
  | .oneOf s => .ok s
  | .look _ => .error .notACharacter
  | atom => do
    let c ← atom.char f
    .ok (.single c)

/-- Reads a character, an escape or a range.  A hyphen before a closing bracket or another hyphen
makes no range; a comment between the two is searched for these as well. -/
def readClassItem (f : Flags) (cs : List Char) : Except Malformed (CodeSet × List Char) := do
  let (first, cs) ← readAtom f cs
  let cs := dropLayout f.laidOut cs
  match cs with
  | '-' :: rest =>
    match peekBehindBlank f.laidOut rest with
    | some ']' | some '-' => .ok (← first.set f, cs)
    | _ =>
      let (last, rest) ← readAtom f (dropLayout f.laidOut rest)
      let lo ← first.char f
      let hi ← last.char f
      if lo ≤ hi then .ok (.range lo.toNat hi.toNat, rest) else .error .badRange
  | cs => .ok (← first.set f, cs)

/-- Reads what follows an opening bracket: a sign of negation, hyphens, and a closing bracket if it
is the first character.  Gives the list that these begin. -/
def readClassStart (f : Flags) (cs : List Char) : Bool × CodeSet × List Char :=
  let (negated, cs) := match dropLayout f.laidOut cs with
    | '^' :: cs => (true, cs)
    | cs => (false, cs)
  match dropHyphens f.laidOut false cs with
  | (true, rest) => (negated, .single '-', rest)
  | (false, ']' :: rest) => (negated, .single ']', rest)
  | (false, rest) => (negated, .empty, rest)

/-! ### Classes -/

/-- The operator that two characters write. -/
def setOp? : Char → Char → Option SetOp
  | '&', '&' => some .inter
  | '-', '-' => some .diff
  | '~', '~' => some .symmDiff
  | _, _ => none

/-- Reads on in a class, the first `skip` characters passed over.  `current` is the list being
read. -/
def classFrom (f : Flags) (skip : Nat) (frames : List ClassFrame) (current : CodeSet) :
    List Char → Except Malformed (CodeSet × List Char)
  | [] => .error .unclosedClass
  | c :: cs =>
    match skip with
    | skip + 1 => classFrom f skip frames current cs
    | 0 =>
      let behind (rest : List Char) : Nat := cs.length - rest.length
      if f.laidOut && (Unicode.isBlank c || c == '#') then
        classFrom f (behind (dropLayout true (c :: cs))) frames current cs
      else if c = '[' then
        match readAsciiClass? f cs with
        | some (.ok (s, rest)) => classFrom f (behind rest) frames (current.union s) cs
        | some (.error e) => .error e
        | none =>
          let (negated, start, rest) := readClassStart f cs
          classFrom f (behind rest) (.bracket current negated :: frames) start cs
      else if c = ']' then
        let (whole, frames) := applyWaiting f current frames
        match frames with
        | .bracket before negated :: frames => do
          let s ← f.negate negated (f.fold whole)
          if frames.isEmpty then .ok (s, cs)
          else classFrom f 0 frames (before.union s) cs
        | _ => .error .unclosedClass
      else match cs.head?.bind (setOp? c) with
        | some op =>
          let (left, frames) := applyWaiting f current frames
          classFrom f 1 (.operator op left :: frames) .empty cs
        | none =>
          match readClassItem f (c :: cs) with
          | .error e => .error e
          | .ok (s, rest) => classFrom f (behind rest) frames (current.union s) cs

/-- Reads a class behind its opening bracket. -/
def readClass (f : Flags) (cs : List Char) : Except Malformed (CodeSet × List Char) :=
  let (negated, start, rest) := readClassStart f cs
  classFrom f 0 [.bracket .empty negated] start rest

end LineScopes.Pattern
