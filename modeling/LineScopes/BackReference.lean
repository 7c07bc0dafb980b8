/-
Back-references in closing patterns.

In the closing pattern of a region, `\1` stands for the text of group 1 of the match
that opened the region.

* `pieces` cuts a pattern into digit escapes, other escapes and single characters;
* `resolve?` puts the texts of the groups in place of the references, escaped, so that
  they match as they are; there is nothing to resolve in a pattern without references.

Design notes: one pass from left to right; what is put in is not looked at again.  A
digit escape is a reference if its first digit is one of `0` to `9`.  Its number may be
too large, or its digits of several scripts; then it stays as it is.
-/
import LineScopes.Match
import LineScopes.Pattern.Literal
import LineScopes.Text.Decimal
import LineScopes.Unicode.Character

namespace LineScopes.BackReference

/-! ### Pieces -/

/-- A piece of a pattern. -/
inductive Piece where
  /-- A backslash and all the decimal digits that follow it. -/
  | digits (run : List Char)
  /-- A backslash and one other character. -/
  | escape (c : Char)
  /-- A character without a backslash, or a backslash at the end. -/
  | plain (c : Char)
deriving DecidableEq, Repr

/-- The characters of a piece. -/
def Piece.chars : Piece → List Char
  | .digits run => '\\' :: run
  | .escape c => ['\\', c]
  | .plain c => [c]

/-- The pieces of a pattern, the first `skip` characters passed over because they belong to the
piece before. -/
def piecesFrom (skip : Nat) : List Char → List Piece
  | [] => []
  | c :: cs =>
    match skip with
    | skip + 1 => piecesFrom skip cs
    | 0 =>
      if c = '\\' then
        match cs with
        | [] => [.plain c]
        | d :: ds =>
          let run := (d :: ds).takeWhile Unicode.isDecimalDigit
          if run.isEmpty then .escape d :: piecesFrom 1 (d :: ds)
          else .digits run :: piecesFrom run.length (d :: ds)
      else .plain c :: piecesFrom 0 cs

/-- The pieces of a pattern. -/
def pieces (pattern : List Char) : List Piece := piecesFrom 0 pattern

/-- Whether a piece refers to a group. -/
def Piece.isReference : Piece → Bool
  | .digits (d :: _) => d.isDigit
  | _ => false

/-! ### Resolution -/

/-- The pattern that matches the text of a group: empty if the group is absent or its span holds no
text of the line. -/
def groupPattern (line : List Char) (found : Match) (group : Nat) : List Char :=
  match (found.group? group).bind fun span => span.chars? line with
  | some text => Pattern.escape text
  | none => []

/-- What a piece becomes. -/
def Piece.resolve (line : List Char) (found : Match) : Piece → List Char
  | .digits run =>
    match Text.readWord run with
    | some group => groupPattern line found group
    | none => '\\' :: run
  | piece => piece.chars

/-- The pattern with its references resolved by a match in a line; `none` if it has none. -/
def resolve? (pattern : String) (line : String) (found : Match) : Option String :=
  let pieces := pieces pattern.toList
  if pieces.any Piece.isReference then
    some (String.ofList (pieces.flatMap (Piece.resolve line.toList found)))
  else none

end LineScopes.BackReference
