/-
What it means for a stack to be selected.

The search for scopes tries one possibility after the other, and looks at no more than the
first and the last scope consumed.  Its meaning is told by the sequences of scopes that an
expression can consume, whatever the order in which they are tried.

* `Expression.Consumes` — the expression can consume the scopes at certain depths;
* `Anchor.Allows` — the anchor allows these depths;
* `Expression.run_search_iff` — a search succeeds when some sequence is accepted by its
  continuation, so that no possibility is lost;
* `selects_iff_consumes` — what is selected is what has a sequence.
-/
import LineScopes.Selector.Matching

namespace LineScopes

/-! ### Sequences of scopes -/

/-- The first scope that may be consumed after those at the given depths, where it is the one at
depth `n` if none are. -/
def nextAfter (n : Nat) (depths : List Nat) : Nat := depths.getLast?.elim n (· + 1)

namespace Expression

mutual

/-- The expression can consume the scopes at these depths, all of them at depth `n` or further in.
A negation consumes nothing, and only if its operand can consume nothing of the whole stack. -/
def Consumes (accepts : Matcher) (stack : List ScopeName) (n : Nat) (depths : List Nat) :
    Expression → Prop
  | .name m => ∃ i scope, depths = [i] ∧ n ≤ i ∧ stack[i]? = some scope ∧ accepts m scope = true
  | .not e => depths = [] ∧ ¬ ∃ others, Consumes accepts stack 0 others e
  | .all es => ConsumesAll accepts stack n depths es
  | .any es => ConsumesAny accepts stack n depths es

/-- The depths are those of sequences of the expressions, put one behind the other, where each
begins further in than all before it. -/
def ConsumesAll (accepts : Matcher) (stack : List ScopeName) (n : Nat) (depths : List Nat) :
    List Expression → Prop
  | [] => depths = []
  | e :: es => ∃ first rest, depths = first ++ rest ∧ Consumes accepts stack n first e ∧
      ConsumesAll accepts stack (nextAfter n first) rest es

/-- One of the expressions can consume the scopes at these depths. -/
def ConsumesAny (accepts : Matcher) (stack : List ScopeName) (n : Nat) (depths : List Nat) :
    List Expression → Prop
  | [] => False
  | e :: es => Consumes accepts stack n depths e ∨ ConsumesAny accepts stack n depths es

end

end Expression

/-- The depths begin, or end, where the anchor demands it, unless there are none. -/
def Anchor.Allows (depth : Nat) (depths : List Nat) : Anchor → Prop
  | .free => True
  | .left => depths = [] ∨ depths.head? = some 0
  | .right => depths = [] ∨ ∃ i, depths.getLast? = some i ∧ i + 1 = depth

/-! ### What is remembered of a sequence -/

namespace Reach

theorem next_foldl_consume (depths : List Nat) :
    ∀ r : Reach, (depths.foldl consume r).next = nextAfter r.next depths := by
  induction depths with
  | nil => exact fun r => rfl
  | cons i depths ih =>
    intro r
    rw [List.foldl_cons, ih]
    cases h : depths.getLast? <;> simp [nextAfter, consume, h, List.getLast?_cons]

theorem first_foldl_consume (depths : List Nat) :
    ∀ r : Reach, (depths.foldl consume r).first = r.first.or depths.head? := by
  induction depths with
  | nil => exact fun r => by simp
  | cons i depths ih =>
    intro r
    rw [List.foldl_cons, ih]
    cases h : r.first <;> simp [consume, h]

theorem last_foldl_consume (depths : List Nat) :
    ∀ r : Reach, (depths.foldl consume r).last = depths.getLast?.or r.last := by
  induction depths with
  | nil => exact fun r => by simp
  | cons i depths ih =>
    intro r
    rw [List.foldl_cons, ih]
    cases h : depths.getLast? <;> simp [consume, h, List.getLast?_cons]

end Reach

/-- What is remembered of a sequence is enough to know whether the anchor allows it. -/
theorem Anchor.admits_iff (a : Anchor) (depth : Nat) (depths : List Nat) :
    a.admits depth (depths.foldl Reach.consume .start) = true ↔ a.Allows depth depths := by
  cases a with
  | free => simp [admits, Allows]
  | left =>
    have hfirst := Reach.first_foldl_consume depths .start
    cases depths with
    | nil => simp [admits, Allows, Reach.start]
    | cons i depths => simp_all [admits, Allows, Reach.start]
  | right =>
    have hlast := Reach.last_foldl_consume depths .start
    cases h : depths.getLast? with
    | none =>
      obtain rfl := List.getLast?_eq_none_iff.mp h
      simp [admits, Allows, Reach.start]
    | some i =>
      have hne : depths ≠ [] := by
        rintro rfl
        cases h
      simp_all [admits, Allows, Reach.start]

/-! ### The search -/

/-- Looking through scopes finds one that is accepted, if there is one. -/
theorem run_seek_iff (accepts : ScopeName → Bool) (k : Nat → Id Bool) (scopes : List ScopeName) :
    ∀ i, (seek (fun scope => pure (accepts scope)) k i scopes).run = true ↔
      ∃ j scope, scopes[j]? = some scope ∧ accepts scope = true ∧ (k (i + j)).run = true := by
  induction scopes with
  | nil =>
    intro i
    simp [seek]
  | cons scope rest ih =>
    intro i
    have hrest : (∃ j s, (scope :: rest)[j + 1]? = some s ∧ accepts s = true ∧
        (k (i + (j + 1))).run = true) ↔
        (seek (fun scope => pure (accepts scope)) k (i + 1) rest).run = true := by
      rw [ih (i + 1)]
      simp only [List.getElem?_cons_succ, Nat.add_assoc, Nat.add_comm 1]
    rw [← Nat.or_exists_add_one, hrest]
    cases hscope : accepts scope with
    | false => simp [seek, hscope]
    | true => cases hk : (k i).run <;> simp [seek, hscope, hk]

namespace Expression

variable (accepts : Matcher) (stack : List ScopeName)

mutual

/-- A search succeeds when the expression can consume some sequence of scopes and its continuation
accepts what is reached then. -/
theorem run_search_iff (k : Reach → Id Bool) (r : Reach) : ∀ e : Expression,
    (e.search (fun n scope => pure (accepts n scope)) stack r k).run = true ↔
      ∃ depths, e.Consumes accepts stack r.next depths ∧
        (k (depths.foldl Reach.consume r)).run = true
  | .name m => by
    rw [search, run_seek_iff]
    constructor
    · rintro ⟨j, scope, hscope, haccepts, hk⟩
      rw [List.getElem?_drop] at hscope
      exact ⟨[r.next + j], ⟨_, scope, rfl, Nat.le_add_right _ _, hscope, haccepts⟩, hk⟩
    · rintro ⟨depths, ⟨i, scope, rfl, hle, hscope, haccepts⟩, hk⟩
      obtain ⟨j, rfl⟩ := Nat.exists_eq_add_of_le hle
      exact ⟨j, scope, by rwa [List.getElem?_drop], haccepts, hk⟩
  | .not e => by
    have he := run_search_iff (fun _ => pure true) .start e
    simp only [Id.run_pure, and_true] at he
    cases hfound : Id.run (e.search (fun n scope => pure (accepts n scope)) stack .start
        fun _ => pure true) with
    | true =>
      have hnone : ¬ ∃ depths, (Expression.not e).Consumes accepts stack r.next depths ∧
          (k (depths.foldl Reach.consume r)).run = true := by
        rintro ⟨depths, ⟨-, hnot⟩, -⟩
        exact hnot (he.mp hfound)
      simp [search, hfound, hnone]
    | false =>
      have hnot : ¬ ∃ depths, e.Consumes accepts stack 0 depths := by
        intro h
        rw [he.mpr h] at hfound
        cases hfound
      simp [search, hfound, Consumes, hnot]
  | .all es => by
    rw [search, run_searchAll_iff k r es]
    rfl
  | .any es => by
    rw [search, run_searchAny_iff k r es]
    rfl

/-- So does a search for expressions one after the other. -/
theorem run_searchAll_iff (k : Reach → Id Bool) (r : Reach) : ∀ es : List Expression,
    (searchAll (fun n scope => pure (accepts n scope)) stack r k es).run = true ↔
      ∃ depths, ConsumesAll accepts stack r.next depths es ∧
        (k (depths.foldl Reach.consume r)).run = true
  | [] => by
    simp [searchAll, ConsumesAll]
  | e :: es => by
    -- The continuation of the first expression is the search for the others.
    rw [searchAll, run_search_iff _ r e]
    simp only [run_searchAll_iff k _ es, Reach.next_foldl_consume]
    constructor
    · rintro ⟨first, hfirst, rest, hrest, hk⟩
      exact ⟨first ++ rest, ⟨first, rest, rfl, hfirst, hrest⟩, by rwa [List.foldl_append]⟩
    · rintro ⟨_, ⟨first, rest, rfl, hfirst, hrest⟩, hk⟩
      exact ⟨first, hfirst, rest, hrest, by rwa [← List.foldl_append]⟩

/-- And one for any of the expressions. -/
theorem run_searchAny_iff (k : Reach → Id Bool) (r : Reach) : ∀ es : List Expression,
    (searchAny (fun n scope => pure (accepts n scope)) stack r k es).run = true ↔
      ∃ depths, ConsumesAny accepts stack r.next depths es ∧
        (k (depths.foldl Reach.consume r)).run = true
  | [] => by
    simp [searchAny, ConsumesAny]
  | e :: es => by
    have he := run_search_iff k r e
    have hes := run_searchAny_iff k r es
    simp only [ConsumesAny, or_and_right, exists_or, ← he, ← hes, searchAny]
    cases hfound : (search (fun n scope => pure (accepts n scope)) stack r k e).run <;>
      simp [hfound]

end

end Expression

/-! ### Selection -/

theorem Alternative.run_searchAny_iff (accepts : Matcher) (stack : List ScopeName)
    (as : List Alternative) :
    Id.run (searchAny (fun n scope => pure (accepts n scope)) stack as) = true ↔
      ∃ a ∈ as, a.selects accepts stack = true := by
  induction as with
  | nil => simp [searchAny]
  | cons a as ih =>
    simp only [List.mem_cons, exists_eq_or_imp]
    rw [← ih, selects, searchAny]
    cases hfound : Id.run (a.search (fun n scope => pure (accepts n scope)) stack) <;>
      simp [hfound]

/-- An expression selects a stack when it can consume some sequence of its scopes, an alternative
when it can consume one that its anchor allows, and a selector when one of its alternatives does. -/
theorem selects_iff_consumes (accepts : Matcher) (stack : List ScopeName) :
    (∀ e : Expression, e.selects accepts stack = true ↔
      ∃ depths, e.Consumes accepts stack 0 depths) ∧
    (∀ a : Alternative, a.selects accepts stack = true ↔
      ∃ depths, a.expression.Consumes accepts stack 0 depths ∧
        a.anchor.Allows stack.length depths) ∧
    ∀ s : Selector, s.selects accepts stack = true ↔
      ∃ a ∈ s.alternatives, a.selects accepts stack = true := by
  refine ⟨fun e => ?_, fun a => ?_, fun s => ?_⟩
  · rw [Expression.selects, Expression.run_search_iff]
    simp [Reach.start]
  · rw [Alternative.selects, Alternative.search, Expression.run_search_iff]
    simp only [Id.run_pure, Anchor.admits_iff]
    rfl
  · exact Alternative.run_searchAny_iff accepts stack s.alternatives

end LineScopes
