/-
Reading a pattern.

    pattern := row ('|' row)*
    row     := (item repetition*)*
    item    := character | class | condition | '(' pattern ')'

* `Pattern.parse` — the pattern that a text writes.

Design notes: one item at a time is added to the innermost open group.  Flags stand in
the row as parts that nothing can repeat.
-/
import LineScopes.Pattern.Item

namespace LineScopes.Pattern

/-- A group that is open: its number, the rows before the last bar, and the row being read, last
part first.  A part without a pattern is a setting of flags. -/
structure OpenGroup where
  number : Option Nat
  rows : List Pattern
  parts : List (Option Pattern)

/-- A group before its first item. -/
def OpenGroup.fresh (number : Option Nat) : OpenGroup := ⟨number, [], []⟩

/-- The pattern of a row. -/
def rowPattern (parts : List (Option Pattern)) : Pattern := inTurn (parts.filterMap id).reverse

/-- The pattern of the rows of a group, the row being read included. -/
def OpenGroup.pattern (g : OpenGroup) : Pattern :=
  oneOf (rowPattern g.parts :: g.rows).reverse

/-- Adds a part to the row of a group. -/
def OpenGroup.add (g : OpenGroup) (part : Option Pattern) : OpenGroup :=
  { g with parts := part :: g.parts }

/-- Reads items into the innermost group, of which `outer` are those around it. -/
def build (outer : List OpenGroup) (g : OpenGroup) : List Item → Except Malformed Pattern
  | [] => if outer.isEmpty then .ok g.pattern else .error .unclosedGroup
  | .atom p :: items => build outer (g.add (some p)) items
  | .flags :: items => build outer (g.add none) items
  | .rep min max greedy :: items =>
    match g.parts with
    | some p :: parts =>
      build outer { g with parts := some (p.repeated min max greedy) :: parts } items
    | _ => .error .nothingToRepeat
  | .opening number :: items => build (g :: outer) (.fresh number) items
  | .closing :: items =>
    match outer with
    | [] => .error .unopenedGroup
    | parent :: outer =>
      let inner := match g.number with
        | some i => .group i g.pattern
        | none => g.pattern
      build outer (parent.add (some inner)) items
  | .bar :: items => build outer { g with rows := rowPattern g.parts :: g.rows, parts := [] } items

/-- The pattern that a text writes. -/
def parse (text : String) : Except Malformed Pattern :=
  match items text.toList with
  | .error e => .error e
  | .ok items => build [] (.fresh none) items

end LineScopes.Pattern
