/-
Sets of code points, held as ranges.

A `CodeSet` is a list of inclusive ranges in ascending order with at least one
code point missing between neighbours, so that a membership test may stop at the
first range that starts too late.  Surrogates are code points, too, but no range
starts or stops with one: a range that stops right before them and one that starts
right behind them stay two.

* `CodeSet.ofRanges` brings any list of ranges into that form;
* `CodeSet.union`, `inter`, `diff`, `symmDiff` and `compl` are the set operations;
* `CodeSet.ofHex` reads a table of hexadecimal ranges.

Design notes: intersection and difference go through both lists at once, so that
ranges are joined by `union` alone.
-/

namespace LineScopes

/-- The last code point. -/
def lastCode : Nat := 0x10FFFF

/-- A set of code points. -/
structure CodeSet where
  /-- Inclusive ranges, ascending, with a gap between neighbours. -/
  ranges : List (Nat × Nat)
deriving DecidableEq, Repr, Inhabited

namespace CodeSet

/-! ### Construction -/

/-- Joins `cur` with the ranges after it, which start no earlier than it does, wherever they
overlap or touch. -/
def joinFrom (cur : Nat × Nat) : List (Nat × Nat) → List (Nat × Nat)
  | [] => [cur]
  | r :: rest =>
    if r.1 ≤ cur.2 + 1 then joinFrom (cur.1, max cur.2 r.2) rest
    else cur :: joinFrom r rest

/-- The set of all code points that lie in some of the ranges. -/
def ofRanges (ranges : List (Nat × Nat)) : CodeSet :=
  match ranges.mergeSort (fun a b => a.1 ≤ b.1) with
  | [] => ⟨[]⟩
  | r :: rest => ⟨joinFrom r rest⟩

/-- The empty set. -/
def empty : CodeSet := ⟨[]⟩

/-- The set of the code points from `lo` to `hi`. -/
def range (lo hi : Nat) : CodeSet := if lo ≤ hi then ⟨[(lo, hi)]⟩ else empty

/-- The set that holds one character. -/
def single (c : Char) : CodeSet := range c.toNat c.toNat

/-- The set of all code points. -/
def all : CodeSet := range 0 lastCode

/-! ### Membership and set operations -/

/-- Whether one of the ascending ranges holds `n`. -/
def inRanges (n : Nat) : List (Nat × Nat) → Bool
  | [] => false
  | (lo, hi) :: rest => if n < lo then false else n ≤ hi || inRanges n rest

/-- Whether the set holds the character `c`. -/
def contains (s : CodeSet) (c : Char) : Bool := inRanges c.toNat s.ranges

/-- The code point behind that of a character, the surrogates passed over. -/
def codeAfter (n : Nat) : Nat := if n = 0xD7FF then 0xE000 else n + 1

/-- The code point before that of a character, the surrogates passed over. -/
def codeBefore (n : Nat) : Nat := if n = 0xE000 then 0xD7FF else n - 1

/-- The gap between a range that stops at `hi` and one that starts at `lo`.  Between ranges that are
cut at the surrogates there is no character, and their gap is the characters beside it. -/
def gap (hi lo : Nat) : Nat × Nat :=
  (min (codeAfter hi) (codeBefore lo), max (codeAfter hi) (codeBefore lo))

/-- The gaps of ascending ranges behind a range that stops at `hi`. -/
def gapsFrom (hi : Nat) : List (Nat × Nat) → List (Nat × Nat)
  | [] => if hi < lastCode then [(codeAfter hi, lastCode)] else []
  | (lo, stop) :: rest => gap hi lo :: gapsFrom stop rest

/-- All characters outside the set, with the gaps of ranges that are cut at the surrogates. -/
def compl (s : CodeSet) : CodeSet :=
  match s.ranges with
  | [] => all
  | (lo, hi) :: rest => ⟨if 0 < lo then (0, codeBefore lo) :: gapsFrom hi rest else gapsFrom hi rest⟩

/-- All code points in either set. -/
def union (s t : CodeSet) : CodeSet :=
  if t.ranges.isEmpty then s else ofRanges (s.ranges ++ t.ranges)

/-- What two lists of ascending ranges have in common. -/
def interRanges : List (Nat × Nat) → List (Nat × Nat) → List (Nat × Nat)
  | (lo, hi) :: rs, (lo', hi') :: rs' =>
    let rest := if hi < hi' then interRanges rs ((lo', hi') :: rs') else interRanges ((lo, hi) :: rs) rs'
    if max lo lo' ≤ min hi hi' then (max lo lo', min hi hi') :: rest else rest
  | _, _ => []
termination_by rs rs' => rs.length + rs'.length

/-- All code points in both sets. -/
def inter (s t : CodeSet) : CodeSet := ⟨interRanges s.ranges t.ranges⟩

/-- What is left of ascending ranges without others. -/
def diffRanges : List (Nat × Nat) → List (Nat × Nat) → List (Nat × Nat)
  | [], _ => []
  | rs, [] => rs
  | (lo, hi) :: rs, (lo', hi') :: rs' =>
    if hi' < lo then diffRanges ((lo, hi) :: rs) rs'
    else if hi < lo' then (lo, hi) :: diffRanges rs ((lo', hi') :: rs')
    else
      let rest :=
        if hi' < hi then diffRanges ((codeAfter hi', hi) :: rs) rs'
        else diffRanges rs ((lo', hi') :: rs')
      if lo < lo' then (lo, codeBefore lo') :: rest else rest
termination_by rs rs' => rs.length + rs'.length

/-- The code points of `s` that are not in `t`. -/
def diff (s t : CodeSet) : CodeSet := ⟨diffRanges s.ranges t.ranges⟩

/-- The code points in exactly one of the sets. -/
def symmDiff (s t : CodeSet) : CodeSet := (s.union t).diff (s.inter t)

/-- Whether the set holds one code point and no other. -/
def isSingle (s : CodeSet) : Bool :=
  match s.ranges with
  | [(lo, hi)] => lo == hi
  | _ => false

/-! ### Tables -/

/-- The value of a hexadecimal digit in lower case; 0 for any other character. -/
def hexDigit (c : Char) : Nat :=
  if '0' ≤ c ∧ c ≤ '9' then c.toNat - '0'.toNat
  else if 'a' ≤ c ∧ c ≤ 'f' then c.toNat - 'a'.toNat + 10
  else 0

/-- Reads the ranges of a table: `lo` is the start of the range under the cursor once its `-` is
read, `n` the number read so far. -/
def hexRanges (lo : Option Nat) (n : Nat) : List Char → List (Nat × Nat)
  | [] => [(lo.getD n, n)]
  | ' ' :: cs => (lo.getD n, n) :: hexRanges none 0 cs
  | '-' :: cs => hexRanges (some n) 0 cs
  | c :: cs => hexRanges lo (16 * n + hexDigit c) cs

/-- The set written as ranges `41-5a` and single code points `b5` in hexadecimal, with one space
between neighbours, in any number of lines. -/
def ofHex (lines : List String) : CodeSet :=
  ofRanges (lines.flatMap fun line => hexRanges none 0 line.toList)

end CodeSet

end LineScopes
