/-
The tokens of a selector.

A selector is made of names, the anchors `L:` and `R:`, and the signs `,` `|` `-`
`(` `)`.  A name begins with a word character or a dot and goes on as long as word
characters, dots and hyphens follow.  Every other character separates tokens and
means nothing else.

* `Token.scan` — the tokens of a text, in order, each with its first byte.

Design notes: `scanFrom` recurses on the characters alone; a token of several
characters tells it how many of the next ones to pass over.
-/
import LineScopes.Text.Span
import LineScopes.Unicode.Character

namespace LineScopes.Selector

/-- What a token says. -/
inductive TokenKind where
  /-- The anchor `L:`. -/
  | left
  /-- The anchor `R:`. -/
  | right
  /-- A name, as written. -/
  | name (text : List Char)
  | comma
  | bar
  | minus
  | opening
  | closing
deriving DecidableEq, Repr

/-- A token and the byte at which it starts. -/
structure Token where
  kind : TokenKind
  start : Nat
deriving DecidableEq, Repr

/-- Whether a name can begin with `c`. -/
def startsName (c : Char) : Bool := Unicode.isWord c || c == '.'

/-- Whether a name can go on with `c`. -/
def continuesName (c : Char) : Bool := Unicode.isWord c || c == '.' || c == '-'

/-- The sign that `c` is, if it is one. -/
def sign? (c : Char) : Option TokenKind :=
  if c = ',' then some .comma
  else if c = '|' then some .bar
  else if c = '-' then some .minus
  else if c = '(' then some .opening
  else if c = ')' then some .closing
  else none

/-- The tokens from byte `pos` on, the first `skip` characters passed over because they belong to
the token before. -/
def scanFrom (skip pos : Nat) : List Char → List Token
  | [] => []
  | c :: cs =>
    let next := pos + c.utf8Size
    match skip with
    | skip + 1 => scanFrom skip next cs
    | 0 =>
      if c = 'L' ∧ cs.head? = some ':' then ⟨.left, pos⟩ :: scanFrom 1 next cs
      else if c = 'R' ∧ cs.head? = some ':' then ⟨.right, pos⟩ :: scanFrom 1 next cs
      else if startsName c then
        let tail := cs.takeWhile continuesName
        ⟨.name (c :: tail), pos⟩ :: scanFrom tail.length next cs
      else match sign? c with
        | some kind => ⟨kind, pos⟩ :: scanFrom 0 next cs
        | none => scanFrom 0 next cs

/-- The tokens of a text. -/
def scan (source : List Char) : List Token := scanFrom 0 0 source

/-- The number of bytes that a token takes. -/
def TokenKind.byteSize : TokenKind → Nat
  | .left | .right => 2
  | .name text => Text.byteSize text
  | .comma | .bar | .minus | .opening | .closing => 1

/-- The bytes that a token takes. -/
def Token.span (t : Token) : Span := ⟨t.start, t.start + t.kind.byteSize⟩

end LineScopes.Selector
