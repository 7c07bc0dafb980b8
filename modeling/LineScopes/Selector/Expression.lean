/-
Selectors.

A selector is a list of alternatives.  Each is an expression over scope names,
perhaps anchored to the outermost (`L:`) or the innermost (`R:`) scope.

* `Expression` — a name, a negation, a conjunction (written side by side) or a
  disjunction (written in parentheses with bars);
* `Expression.toText`, `Alternative.toText`, `Selector.toText` — the canonical text;
* `Selector.outline` — the tree with every node named.
-/
import LineScopes.ScopeName

namespace LineScopes

/-- A condition on a stack of scopes. -/
inductive Expression where
  /-- Some scope of the stack is accepted by the name. -/
  | name (n : ScopeName)
  /-- The stack does not satisfy the operand. -/
  | not (e : Expression)
  /-- The stack satisfies the operands one after the other. -/
  | all (es : List Expression)
  /-- The stack satisfies one of the operands. -/
  | any (es : List Expression)

/-- Where the scopes that satisfy an expression have to begin or end. -/
inductive Anchor where
  /-- Anywhere. -/
  | free
  /-- They begin with the outermost scope. -/
  | left
  /-- They end with the innermost scope. -/
  | right
deriving DecidableEq, Repr

/-- An expression with its anchor. -/
structure Alternative where
  anchor : Anchor
  expression : Expression

/-- Alternatives, one of which is to hold. -/
structure Selector where
  alternatives : List Alternative

/-! ### Equality of trees -/

namespace Expression

instance : Inhabited Expression := ⟨.all []⟩

mutual

/-- Decides whether two expressions are the same tree. -/
def decEq : (a b : Expression) → Decidable (a = b)
  | .name m, .name n =>
    if h : m = n then .isTrue (by rw [h]) else .isFalse (fun e => h (by injection e))
  | .not a, .not b =>
    match decEq a b with
    | .isTrue h => .isTrue (by rw [h])
    | .isFalse h => .isFalse (fun e => h (by injection e))
  | .all as, .all bs =>
    match decEqList as bs with
    | .isTrue h => .isTrue (by rw [h])
    | .isFalse h => .isFalse (fun e => h (by injection e))
  | .any as, .any bs =>
    match decEqList as bs with
    | .isTrue h => .isTrue (by rw [h])
    | .isFalse h => .isFalse (fun e => h (by injection e))
  | .name _, .not _ | .name _, .all _ | .name _, .any _
  | .not _, .name _ | .not _, .all _ | .not _, .any _
  | .all _, .name _ | .all _, .not _ | .all _, .any _
  | .any _, .name _ | .any _, .not _ | .any _, .all _ => .isFalse (fun e => by injection e)

/-- Decides whether two lists of expressions are the same. -/
def decEqList : (as bs : List Expression) → Decidable (as = bs)
  | [], [] => .isTrue rfl
  | [], _ :: _ | _ :: _, [] => .isFalse (fun e => by injection e)
  | a :: as, b :: bs =>
    match decEq a b, decEqList as bs with
    | .isTrue h, .isTrue hs => .isTrue (by rw [h, hs])
    | .isFalse h, _ => .isFalse (fun e => h (by injection e))
    | _, .isFalse hs => .isFalse (fun e => hs (by injection e))

end

instance : DecidableEq Expression := decEq

end Expression

deriving instance DecidableEq for Alternative

deriving instance DecidableEq for Selector

/-! ### Canonical text -/

namespace Expression

mutual

/-- The canonical text of an expression. -/
def toText : Expression → String
  | .name n => n.toText
  | .not e => "-" ++ e.toText
  | .all es => " ".intercalate (toTexts es)
  | .any es => "(" ++ " | ".intercalate (toTexts es) ++ ")"

/-- The canonical texts of a list of expressions. -/
def toTexts : List Expression → List String
  | [] => []
  | e :: es => e.toText :: toTexts es

end

mutual

/-- The tree with every node named. -/
def outline : Expression → String
  | .name n => "Name(NameExpression(" ++ n.outline ++ "))"
  | .not e => "Negation(" ++ e.outline ++ ")"
  | .all es => "Conjunction([" ++ ", ".intercalate (outlines es) ++ "])"
  | .any es => "Disjunction([" ++ ", ".intercalate (outlines es) ++ "])"

/-- The trees of a list of expressions. -/
def outlines : List Expression → List String
  | [] => []
  | e :: es => e.outline :: outlines es

end

end Expression

namespace Anchor

/-- What stands in front of an anchored expression. -/
def toText : Anchor → String
  | .free => ""
  | .left => "L:"
  | .right => "R:"

/-- The name of the anchor in an outline. -/
def outline : Anchor → String
  | .free => "None"
  | .left => "Left"
  | .right => "Right"

end Anchor

namespace Alternative

/-- The canonical text of an alternative. -/
def toText (a : Alternative) : String := a.anchor.toText ++ a.expression.toText

/-- The alternative with every node named. -/
def outline (a : Alternative) : String :=
  "PositionalExpression \x7b position: " ++ a.anchor.outline ++ ", expression: " ++
    a.expression.outline ++ " \x7d"

end Alternative

namespace Selector

/-- The canonical text of a selector. -/
def toText (s : Selector) : String := ", ".intercalate (s.alternatives.map Alternative.toText)

/-- The selector with every node named. -/
def outline (s : Selector) : String :=
  "ScopeSelector \x7b expressions: [" ++
    ", ".intercalate (s.alternatives.map Alternative.outline) ++ "] \x7d"

end Selector

end LineScopes
