/-
Space and comments in patterns.

In a pattern that is laid out for reading (`x`), white space means nothing, and neither
does a `#` and what follows it on its line.  The functions here read a piece of a
pattern and what is left behind it; `laidOut` says whether this way of writing is on.
-/
import LineScopes.Unicode.Character

namespace LineScopes.Pattern

/-- What is left behind space and comments; `comment` while in a comment. -/
def dropLayoutFrom (laidOut comment : Bool) : List Char → List Char
  | [] => []
  | c :: cs =>
    if comment then dropLayoutFrom laidOut (c != '\n') cs
    else if laidOut && Unicode.isBlank c then dropLayoutFrom laidOut false cs
    else if laidOut && c == '#' then dropLayoutFrom laidOut true cs
    else c :: cs

/-- What is left behind space and comments. -/
def dropLayout (laidOut : Bool) (cs : List Char) : List Char := dropLayoutFrom laidOut false cs

/-- The next character that is no white space, a single `#` in front of it passed over.  The text of
a comment is not passed over. -/
def peekBehindBlank (laidOut : Bool) (cs : List Char) : Option Char :=
  if laidOut then
    match cs.dropWhile Unicode.isBlank with
    | '#' :: rest => (rest.dropWhile Unicode.isBlank).head?
    | rest => rest.head?
  else cs.head?

/-- The characters up to a closing brace, and what is left behind it; `none` without one. -/
def upToBrace (laidOut comment : Bool) : List Char → Option (List Char × List Char)
  | [] => none
  | c :: cs =>
    if comment then upToBrace laidOut (c != '\n') cs
    else if laidOut && Unicode.isBlank c then upToBrace laidOut false cs
    else if laidOut && c == '#' then upToBrace laidOut true cs
    else if c == '\x7d' then some ([], cs)
    else (upToBrace laidOut false cs).map fun (body, rest) => (c :: body, rest)

/-- The decimal digits at the front, and what is left behind them. -/
def spanDigits (laidOut comment : Bool) : List Char → List Char × List Char
  | [] => ([], [])
  | c :: cs =>
    if comment then spanDigits laidOut (c != '\n') cs
    else if c.isDigit then
      let (digits, rest) := spanDigits laidOut false cs
      (c :: digits, rest)
    else if laidOut && Unicode.isBlank c then spanDigits laidOut false cs
    else if laidOut && c == '#' then spanDigits laidOut true cs
    else ([], c :: cs)

/-- Whether there are hyphens at the front, and what is left behind them. -/
def dropHyphens (laidOut comment : Bool) : List Char → Bool × List Char
  | [] => (false, [])
  | c :: cs =>
    if comment then dropHyphens laidOut (c != '\n') cs
    else if laidOut && Unicode.isBlank c then dropHyphens laidOut false cs
    else if laidOut && c == '#' then dropHyphens laidOut true cs
    else if c == '-' then (true, (dropHyphens laidOut false cs).2)
    else (false, c :: cs)

end LineScopes.Pattern
