/-
Text as a pattern.

* `isMeta` — the characters that mean something in a pattern;
* `escape` — the pattern that matches a text and nothing else: each of those
  characters with a backslash in front.
-/

namespace LineScopes.Pattern

/-- Whether `c` means something in some place of a pattern. -/
def isMeta (c : Char) : Bool :=
  ['\\', '.', '+', '*', '?', '(', ')', '|', '[', ']', '\x7b', '\x7d', '^', '$', '#', '&', '-',
    '~'].contains c

/-- The pattern that matches the text and nothing else. -/
def escape (text : List Char) : List Char :=
  text.flatMap fun c => if isMeta c then ['\\', c] else [c]

end LineScopes.Pattern
