/-
Unsigned 64-bit numbers in decimal.

* `readWord` — the number that a text writes: an optional `+`, then decimal
  digits, no more than `maxWord`.
-/

namespace LineScopes.Text

/-- The largest number of 64 bits. -/
def maxWord : Nat := UInt64.size - 1

/-- The number written by decimal digits in front of which `n` was read; `none` at any other
character. -/
def digitsFrom (n : Nat) : List Char → Option Nat
  | [] => some n
  | c :: cs => if c.isDigit then digitsFrom (10 * n + (c.toNat - '0'.toNat)) cs else none

/-- The number written by one or more decimal digits. -/
def readDigits (cs : List Char) : Option Nat := if cs.isEmpty then none else digitsFrom 0 cs

/-- The 64-bit number that a text writes, a plus sign in front allowed. -/
def readWord (cs : List Char) : Option Nat :=
  let digits := match cs with
    | '+' :: cs => cs
    | cs => cs
  (readDigits digits).filter (· ≤ maxWord)

end LineScopes.Text
