/-
Scope names.

A scope name is a sequence of non-empty parts, general to specific, written with
dots: `string.quoted.double`.

* `ScopeName.ofString` splits a text at its dots and drops empty parts;
* `ScopeName.ofParts` takes the parts as they are, dots inside them included;
* `ScopeName.isPrefixOf` — the parts of one name begin the parts of the other;
* `ScopeName.cmp` — the order of names, part by part.

Design notes: a name built by `ofParts` may have a dot inside a part, so the
written form does not always read back; that no part is empty always holds and
is kept in the type.
-/
import LineScopes.Text.Quoted

namespace LineScopes

/-- A name of one or more parts, or the empty name. -/
structure ScopeName where
  /-- The parts, from general to specific. -/
  parts : List String
  /-- No part is the empty text. -/
  ne_empty : ∀ p ∈ parts, p ≠ ""
deriving DecidableEq

namespace ScopeName

instance : Inhabited ScopeName := ⟨[], by simp⟩

/-! ### Construction -/

/-- The pieces of a text between its dots. -/
def splitDots : List Char → List (List Char)
  | [] => [[]]
  | c :: cs =>
    if c = '.' then [] :: splitDots cs
    else match splitDots cs with
      | [] => [[c]]
      | piece :: rest => (c :: piece) :: rest

/-- The name with the given parts, the empty ones dropped. -/
def ofParts (parts : List String) : ScopeName :=
  ⟨parts.filter (· ≠ ""), by simp⟩

/-- The name that a text writes: what stands between its dots, empty pieces dropped. -/
def ofString (text : String) : ScopeName :=
  ofParts ((splitDots text.toList).map String.ofList)

/-- The written form: the parts with dots between them. -/
def toText (n : ScopeName) : String := ".".intercalate n.parts

/-! ### Comparison -/

/-- Whether the parts of `p` are the first parts of `n`. -/
def isPrefixOf (p n : ScopeName) : Bool := p.parts.isPrefixOf n.parts

/-- Compares two lists of parts: the first difference decides, and a list comes after its own
beginnings. -/
def cmpParts : List String → List String → Ordering
  | [], [] => .eq
  | [], _ :: _ => .lt
  | _ :: _, [] => .gt
  | a :: as, b :: bs => (compare a b).then (cmpParts as bs)

/-- The order of names. -/
def cmp (m n : ScopeName) : Ordering := cmpParts m.parts n.parts

/-! ### Outline -/

/-- The name with its parts told apart. -/
def outline (n : ScopeName) : String :=
  "ScopeName \x7b parts: [" ++ ", ".intercalate (n.parts.map Text.quote) ++ "] \x7d"

end ScopeName

end LineScopes
