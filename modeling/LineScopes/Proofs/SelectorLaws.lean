/-
Laws of selectors.

The operands of a conjunction consume scopes one after the other, so that what one of them
consumes bounds those behind it, and the last one meets the anchor.  A rewritten operand must
therefore be able to consume the very same scopes, and then the rewriting is sound wherever it
takes place.

* `Expression.Interchangeable` — two expressions can consume the same scopes, whatever was
  consumed before;
* `Expression.Context` — an expression with a gap, in which one of two interchangeable
  expressions may stand for the other (`Interchangeable.fill`);
* `interchangeable_nested`, `interchangeable_group` and `interchangeable_not_any` — conjunctions
  in conjunctions, disjunctions in conjunctions, and negated disjunctions;
* `groups_distribute_and_negations_split` — what this means for selection.
-/
import LineScopes.Proofs.Consumption

namespace LineScopes

/-! ### Sequences one behind the other -/

theorem nextAfter_append (n : Nat) (first rest : List Nat) :
    nextAfter n (first ++ rest) = nextAfter (nextAfter n first) rest := by
  cases h : rest.getLast? <;> simp [nextAfter, List.getLast?_append, h]

namespace Expression

variable {accepts : Matcher} {stack : List ScopeName}

/-- What two lists of expressions consume together is what the second one consumes behind the
first one. -/
theorem consumesAll_append_iff {ys : List Expression} : ∀ {xs : List Expression} {n : Nat}
    {depths : List Nat}, ConsumesAll accepts stack n depths (xs ++ ys) ↔
      ∃ first rest, depths = first ++ rest ∧ ConsumesAll accepts stack n first xs ∧
        ConsumesAll accepts stack (nextAfter n first) rest ys := by
  intro xs
  induction xs with
  | nil =>
    intro n depths
    constructor
    · intro h
      exact ⟨[], depths, rfl, rfl, h⟩
    · rintro ⟨_, rest, rfl, rfl, h⟩
      exact h
  | cons x xs ih =>
    intro n depths
    simp only [List.cons_append, ConsumesAll, ih]
    constructor
    · rintro ⟨first, _, rfl, hx, middle, rest, rfl, hxs, hys⟩
      refine ⟨first ++ middle, rest, (List.append_assoc _ _ _).symm, ?_, ?_⟩
      · exact ⟨first, middle, rfl, hx, hxs⟩
      · rwa [nextAfter_append]
    · rintro ⟨_, rest, rfl, ⟨first, middle, rfl, hx, hxs⟩, hys⟩
      refine ⟨first, middle ++ rest, List.append_assoc _ _ _, hx, middle, rest, rfl, hxs, ?_⟩
      rwa [← nextAfter_append]

theorem consumesAny_iff {n : Nat} {depths : List Nat} {es : List Expression} :
    ConsumesAny accepts stack n depths es ↔ ∃ e ∈ es, e.Consumes accepts stack n depths := by
  induction es with
  | nil => simp [ConsumesAny]
  | cons e es ih => simp [ConsumesAny, ih]

/-! ### Interchangeable expressions -/

/-- Two expressions can consume the same scopes of a stack, wherever they may begin. -/
def Interchangeable (accepts : Matcher) (stack : List ScopeName) (e f : Expression) : Prop :=
  ∀ n depths, e.Consumes accepts stack n depths ↔ f.Consumes accepts stack n depths

/-- An expression with a gap, at any depth of it. -/
inductive Context where
  /-- The gap alone. -/
  | gap
  /-- The gap is in the operand of a negation. -/
  | not (c : Context)
  /-- The gap is in an operand of a conjunction. -/
  | all (front : List Expression) (c : Context) (back : List Expression)
  /-- The gap is in an operand of a disjunction. -/
  | any (front : List Expression) (c : Context) (back : List Expression)

/-- The expression with the gap filled. -/
def Context.fill (e : Expression) : Context → Expression
  | .gap => e
  | .not c => .not (c.fill e)
  | .all front c back => .all (front ++ [c.fill e] ++ back)
  | .any front c back => .any (front ++ [c.fill e] ++ back)

/-- The gap of an expression may be filled with either of two interchangeable expressions. -/
theorem Interchangeable.fill {e f : Expression} (h : Interchangeable accepts stack e f)
    (c : Context) : Interchangeable accepts stack (c.fill e) (c.fill f) := by
  induction c with
  | gap => exact h
  | not c ih =>
    intro n depths
    simp only [Context.fill, Consumes, ih 0 _]
  | all front c back ih =>
    intro n depths
    -- The operands in front and behind stay where they are, since the gap takes the same scopes.
    simp only [Context.fill, Consumes, consumesAll_append_iff, ConsumesAll, ih _ _]
  | any front c back ih =>
    intro n depths
    simp only [Context.fill, Consumes, consumesAny_iff, List.mem_append, List.mem_singleton,
      or_and_right, exists_or, exists_eq_left, ih n depths]

/-! ### Laws -/

/-- A conjunction in a conjunction is as good as its operands. -/
theorem interchangeable_nested (xs ys zs : List Expression) :
    Interchangeable accepts stack (.all (xs ++ [.all ys] ++ zs)) (.all (xs ++ ys ++ zs)) := by
  intro n depths
  have hsingle : ∀ n depths, ConsumesAll accepts stack n depths [.all ys] ↔
      ConsumesAll accepts stack n depths ys := by
    intro n depths
    simp [ConsumesAll, Consumes]
  simp only [Consumes, consumesAll_append_iff, hsingle]

/-- A conjunction around a disjunction consumes what it does around one of its operands. -/
theorem consumes_group_iff {xs ys zs : List Expression} {n : Nat} {depths : List Nat} :
    Consumes accepts stack n depths (.all (xs ++ [.any ys] ++ zs)) ↔
      ∃ y ∈ ys, Consumes accepts stack n depths (.all (xs ++ [y] ++ zs)) := by
  simp only [Consumes, consumesAll_append_iff, ConsumesAll, consumesAny_iff]
  grind

/-- A disjunction in a conjunction may be pulled out of it. -/
theorem interchangeable_group (xs ys zs : List Expression) :
    Interchangeable accepts stack (.all (xs ++ [.any ys] ++ zs))
      (.any (ys.map fun y => .all (xs ++ [y] ++ zs))) := by
  intro n depths
  rw [consumes_group_iff]
  show _ ↔ ConsumesAny accepts stack n depths _
  rw [consumesAny_iff]
  constructor
  · rintro ⟨y, hy, h⟩
    exact ⟨_, List.mem_map_of_mem hy, h⟩
  · rintro ⟨_, he, h⟩
    obtain ⟨y, hy, rfl⟩ := List.mem_map.mp he
    exact ⟨y, hy, h⟩

/-- Negations side by side consume nothing, and only where none of their operands can consume
anything of the whole stack. -/
theorem consumesAll_map_not_iff {ys : List Expression} : ∀ {n : Nat} {depths : List Nat},
    ConsumesAll accepts stack n depths (ys.map .not) ↔
      depths = [] ∧ ∀ y ∈ ys, ¬ ∃ others, y.Consumes accepts stack 0 others := by
  induction ys with
  | nil => simp [ConsumesAll]
  | cons y ys ih =>
    intro n depths
    simp only [List.map_cons, ConsumesAll, Consumes, ih, List.forall_mem_cons]
    constructor
    · rintro ⟨_, _, rfl, ⟨rfl, hy⟩, rfl, hys⟩
      exact ⟨rfl, hy, hys⟩
    · rintro ⟨rfl, hy, hys⟩
      exact ⟨[], [], rfl, ⟨rfl, hy⟩, rfl, hys⟩

/-- A negated disjunction is as good as the negations of its operands side by side. -/
theorem interchangeable_not_any (ys : List Expression) :
    Interchangeable accepts stack (.not (.any ys)) (.all (ys.map .not)) := by
  intro n depths
  rw [Consumes, Consumes, consumesAll_map_not_iff]
  simp only [Consumes, consumesAny_iff]
  grind

/-! ### Selection -/

/-- Two expressions are both satisfied by a stack or both not, by themselves and behind every
anchor. -/
def SelectAlike (accepts : Matcher) (stack : List ScopeName) (e f : Expression) : Prop :=
  e.selects accepts stack = f.selects accepts stack ∧
    ∀ anchor : Anchor, Alternative.selects accepts stack ⟨anchor, e⟩ =
      Alternative.selects accepts stack ⟨anchor, f⟩

theorem Interchangeable.selectAlike {e f : Expression} (h : Interchangeable accepts stack e f) :
    SelectAlike accepts stack e f := by
  obtain ⟨hexpression, halternative, -⟩ := selects_iff_consumes accepts stack
  refine ⟨?_, fun anchor => ?_⟩
  · rw [Bool.eq_iff_iff, hexpression, hexpression]
    simp only [h 0 _]
  · rw [Bool.eq_iff_iff, halternative, halternative]
    simp only [h 0 _]

end Expression

open Expression in
/-- A conjunction with a disjunction among its operands selects, behind any anchor, what it selects
with one of the operands of the disjunction in its place.  Within any expression, such a
disjunction may be pulled out of the conjunction, a conjunction among the operands of another one
may be replaced by its operands, and a negated disjunction by the negations of its operands. -/
theorem groups_distribute_and_negations_split (accepts : Matcher) (stack : List ScopeName) :
    (∀ (anchor : Anchor) (xs ys zs : List Expression),
      Alternative.selects accepts stack ⟨anchor, .all (xs ++ [.any ys] ++ zs)⟩ = true ↔
        ∃ y ∈ ys, Alternative.selects accepts stack ⟨anchor, .all (xs ++ [y] ++ zs)⟩ = true) ∧
    (∀ (c : Context) (xs ys zs : List Expression),
      SelectAlike accepts stack (c.fill (.all (xs ++ [.any ys] ++ zs)))
        (c.fill (.any (ys.map fun y => .all (xs ++ [y] ++ zs))))) ∧
    (∀ (c : Context) (xs ys zs : List Expression),
      SelectAlike accepts stack (c.fill (.all (xs ++ [.all ys] ++ zs)))
        (c.fill (.all (xs ++ ys ++ zs)))) ∧
    ∀ (c : Context) (ys : List Expression),
      SelectAlike accepts stack (c.fill (.not (.any ys))) (c.fill (.all (ys.map .not))) := by
  refine ⟨fun anchor xs ys zs => ?_, fun c xs ys zs => ?_, fun c xs ys zs => ?_, fun c ys => ?_⟩
  · obtain ⟨-, hiff, -⟩ := selects_iff_consumes accepts stack
    simp only [hiff, consumes_group_iff]
    grind
  · exact ((interchangeable_group xs ys zs).fill c).selectAlike
  · exact ((interchangeable_nested xs ys zs).fill c).selectAlike
  · exact ((interchangeable_not_any ys).fill c).selectAlike

end LineScopes
