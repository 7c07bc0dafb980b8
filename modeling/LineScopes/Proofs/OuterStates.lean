/-
States that a line does not get down to.

As long as a line leaves something open on top of the states below, these have no part in it:
with others in their place, it takes the same course, and the tokens begin with the scopes of
those others instead.

* `StateStack.pushAll` — states opened on top of a stack, and `StateStack.Reframed`: the same
  ones on top of two stacks;
* `Tokenizer.visited` — the stacks in the course of a line, also of one that fails;
* `mem_visited_of_walk` — these are the stacks of all places on the way;
* `outer_states_only_lend_scopes` — what becomes of a line with other states below.
-/
import LineScopes.Proofs.ParallelRuns
import LineScopes.Proofs.Termination

namespace LineScopes

/-! ### States on top of others -/

namespace StateStack

/-- The stack with states opened on top of it. -/
def pushAll (base : StateStack) (tail : List OpenState) : StateStack :=
  ⟨base.root, base.nested ++ tail⟩

/-- The same states are open on top of the one stack and on top of the other. -/
def Reframed (base base' s s' : StateStack) : Prop :=
  ∃ tail, tail ≠ [] ∧ s = base.pushAll tail ∧ s' = base'.pushAll tail

variable {base base' : StateStack} {tail : List OpenState}

@[simp] theorem pushAll_nil (base : StateStack) : base.pushAll [] = base := by
  simp [pushAll]

theorem push_pushAll (state : OpenState) :
    (base.pushAll tail).push state = base.pushAll (tail ++ [state]) := by
  simp [push, pushAll]

theorem pop_pushAll (h : tail ≠ []) : (base.pushAll tail).pop = base.pushAll tail.dropLast := by
  simp [pop, pushAll, h]

theorem top_pushAll (h : tail ≠ []) : (base.pushAll tail).top = tail.getLast h := by
  simp [top, pushAll, List.getLast?_append, List.getLast?_eq_some_getLast h]

theorem scopeNames_pushAll :
    (base.pushAll tail).scopeNames = base.scopeNames ++ tail.filterMap OpenState.scope := by
  have hstates : (base.pushAll tail).states = base.states ++ tail := rfl
  rw [scopeNames, hstates, List.filterMap_append, scopeNames]

/-- Opening states keeps what is below, and so does closing them as long as one is left. -/
theorem congruence_reframed (base base' : StateStack) :
    Congruence (· ≠ base) (Reframed base base') where
  top := by
    rintro _ _ ⟨tail, hne, rfl, rfl⟩
    rw [top_pushAll hne, top_pushAll hne]
  push := by
    rintro _ _ ⟨tail, -, rfl, rfl⟩ state
    exact ⟨tail ++ [state], by simp, push_pushAll state, push_pushAll state⟩
  pop := by
    rintro _ _ ⟨tail, hne, rfl, rfl⟩ hkept
    refine ⟨tail.dropLast, fun hnil => hkept ?_, pop_pushAll hne, pop_pushAll hne⟩
    rw [pop_pushAll hne, hnil, pushAll_nil]

end StateStack

/-! ### The stacks of a line -/

namespace Tokenizer

variable {ε M : Type} {t : Tokenizer ε M} {line : String}

/-- The stacks before and after each turn that is taken from a place on. -/
def visitedFrom (t : Tokenizer ε M) (line : String) : Nat → Place → PatternCache M → List StateStack
  | 0, p, _ => [p.stack]
  | n + 1, p, cache =>
    let turned := (t.turn line p).run cache
    p.stack ::
      match turned.result with
      | .ok (.inl q) => t.visitedFrom line n q turned.cache
      | _ => []

/-- The stacks in the course of a line, up to its end or to the error that ends it. -/
def visited (t : Tokenizer ε M) (line : String) (stack : StateStack) (cache : PatternCache M) :
    List StateStack :=
  if (t.limit.filter (· < line.utf8ByteSize)).isSome then [stack]
  else t.visitedFrom line (turnLimit t.grammar line.utf8ByteSize) (.first stack) cache

theorem mem_visitedFrom_self (n : Nat) (p : Place) (cache : PatternCache M) :
    p.stack ∈ t.visitedFrom line n p cache := by
  cases n <;> simp [visitedFrom]

/-- A move is a turn. -/
theorem result_turn_of_moves (hforward : t.engine.SearchesForward) {p q : Place}
    (hmove : t.Moves line p q) {cache : PatternCache M} (hcache : t.engine.Coherent cache) :
    ((t.turn line p).run cache).result = .ok (.inl q) := by
  obtain ⟨c, hc, hnew⟩ := hmove
  rw [(yields_turn hforward line p cache hcache).1, hc]
  exact congrArg Except.ok (if_neg hnew)

theorem length_applied_of_walk {p q : Place} (hwalk : Relation.ReflTransGen (t.Moves line) p q) :
    p.applied.length ≤ q.applied.length := by
  induction hwalk with
  | refl => exact Nat.le_refl _
  | tail _ hmove ih =>
    cases hmove
    simp only [Place.after, List.length_cons]
    omega

/-- A place that is some turns away has its stack among those of that many turns. -/
theorem mem_visitedFrom_of_walk (hforward : t.engine.SearchesForward) (n : Nat) :
    ∀ {p q : Place} {cache : PatternCache M}, t.engine.Coherent cache →
      Relation.ReflTransGen (t.Moves line) p q → q.applied.length ≤ p.applied.length + n →
      q.stack ∈ t.visitedFrom line n p cache := by
  induction n with
  | zero =>
    intro p q cache _ hwalk hlength
    rcases hwalk.cases_head with rfl | ⟨p', hmove, hrest⟩
    · exact mem_visitedFrom_self 0 p cache
    · have hle := length_applied_of_walk hrest
      cases hmove
      simp only [Place.after, List.length_cons] at hle
      omega
  | succ n ih =>
    intro p q cache hcache hwalk hlength
    rcases hwalk.cases_head with rfl | ⟨p', hmove, hrest⟩
    · exact mem_visitedFrom_self _ p cache
    · have hturn := result_turn_of_moves hforward hmove hcache
      have hstep : p'.applied.length = p.applied.length + 1 := by
        cases hmove
        rfl
      -- The rest of the walk is covered by the turns that are left.
      have hlater := ih ((t.settles_turn line p).coherent hcache) hrest (by omega)
      simp only [visitedFrom, hturn]
      exact List.mem_cons_of_mem _ hlater

/-- All places on the way through a line have their stacks among those of the line. -/
theorem mem_visited_of_walk (hengine : t.engine.StaysInLine)
    (hlimit : t.limit.filter (· < line.utf8ByteSize) = none) {stack : StateStack}
    {cache : PatternCache M} (hcache : t.engine.Coherent cache) {p : Place}
    (hwalk : Relation.ReflTransGen (t.Moves line) (.first stack) p) :
    p.stack ∈ t.visited line stack cache := by
  have haccount := accounted_of_walk hengine
    (Place.accounted_first t.grammar line.utf8ByteSize stack) hwalk
  have hle := haccount.applied_le
  rw [visited, hlimit]
  refine mem_visitedFrom_of_walk hengine.searchesForward _ hcache hwalk ?_
  unfold matchLimit at hle
  unfold turnLimit
  omega

theorem mem_visited_self (stack : StateStack) (cache : PatternCache M) :
    stack ∈ t.visited line stack cache := by
  unfold visited
  split
  · exact List.mem_singleton_self stack
  · exact mem_visitedFrom_self _ (.first stack) cache

/-! ### Other states below -/

/-- If a line does not bring the stack down to the states below, then with others in their place it
fails with the same error, or comes to tokens with the same spans, whose scopes are those of the
states below and then the same in both cases, and leaves the same states open on top of those below.
The calls before make no difference. -/
theorem outer_states_only_lend_scopes (hengine : t.engine.StaysInLine) (line : String)
    (base base' : StateStack) (tail : List OpenState) (calls calls' : List Call)
    (hkept : base ∉ t.visited line (base.pushAll tail) (t.cacheAfter calls)) :
    Agree (fun run run' =>
        (∃ tail', run.stack = base.pushAll tail' ∧ run'.stack = base'.pushAll tail') ∧
        List.Forall₂ (fun a b => a.span = b.span ∧ ∃ above,
          a.scopes = base.scopeNames ++ above ∧ b.scopes = base'.scopeNames ++ above)
          run.tokens run'.tokens)
      ((t.line line (base.pushAll tail)).run (t.cacheAfter calls)).result
      ((t.line line (base'.pushAll tail)).run (t.cacheAfter calls')).result := by
  have hcache := t.coherent_cacheAfter calls
  have hne : tail ≠ [] := by
    rintro rfl
    rw [StateStack.pushAll_nil] at hkept
    exact hkept (mem_visited_self base _)
  have hfirst : StateStack.Reframed base base' (base.pushAll tail) (base'.pushAll tail) :=
    ⟨tail, hne, rfl, rfl⟩
  have hallowed : t.limit.filter (· < line.utf8ByteSize) = none → ∀ p,
      Relation.ReflTransGen (t.Moves line) (.first (base.pushAll tail)) p → p.stack ≠ base := by
    intro hlimit p hwalk heq
    have hvisited := mem_visited_of_walk hengine hlimit hcache hwalk
    rw [heq] at hvisited
    exact hkept hvisited
  have hline := alike_line_of_congruence hengine (StateStack.congruence_reframed base base')
    hfirst hallowed
  refine (hline _ _ hcache (t.coherent_cacheAfter calls')).result.mono ?_
  rintro run run' ⟨⟨tail', -, hstack, hstack'⟩, htokens⟩
  refine ⟨⟨tail', hstack, hstack'⟩, htokens.imp ?_⟩
  rintro a b ⟨hspan, _, _, above, ⟨between, -, rfl, rfl⟩, ha, hb⟩
  rw [StateStack.scopeNames_pushAll, List.append_assoc] at ha hb
  exact ⟨hspan, _, ha, hb⟩

/-- Groups in brackets inside of each other. -/
def grouped : Tokenizer Scripted.NoEntry (List Scripted.Entry) where
  grammar := ⟨#[⟨.container, some (.ofString "text"), [1]⟩,
    ⟨.region ⟨"[(]", "[)]", .none, .none, .none⟩, some (.ofString "group"), [1]⟩], 0⟩
  engine := Scripted.engine
    [("[(]", [⟨⟨⟨0, 1⟩, []⟩, some "(a)", none⟩]), ("[)]", [⟨⟨⟨2, 3⟩, []⟩, some "(a)", none⟩])]
  limit := none

/-- The line `(a)` in a group of a text leaves that group open, and so it does in a group of a text
that is quoted. -/
theorem outer_states_only_lend_scopes_grouped :
    let text : StateStack := ⟨⟨0, some (.ofString "text"), none⟩, []⟩
    let quoted : StateStack :=
      ⟨⟨7, some (.ofString "quote"), some ">"⟩, [⟨0, some (.ofString "text"), none⟩]⟩
    let group : List OpenState := [⟨1, some (.ofString "group"), none⟩]
    grouped.engine.StaysInLine ∧
    text ∉ grouped.visited "(a)" (text.pushAll group) (grouped.cacheAfter []) ∧
    ∃ run, ((grouped.line "(a)" (quoted.pushAll group)).run (grouped.cacheAfter [])).result =
        .ok run ∧
      run.stack = quoted.pushAll group ∧ run.tokens.map Token.span = [⟨0, 1⟩, ⟨1, 2⟩, ⟨2, 3⟩] ∧
      ∀ token ∈ run.tokens, quoted.scopeNames <+: token.scopes := by
  intro text quoted group
  have hengine : grouped.engine.StaysInLine := Scripted.staysInLine (by decide)
  have hkept : text ∉ grouped.visited "(a)" (text.pushAll group) (grouped.cacheAfter []) := by
    have hvisited : (grouped.visited "(a)" (text.pushAll group) (grouped.cacheAfter [])).map
        StateStack.depth = [2, 3, 2] := by
      cbv
    intro hmem
    have hdepth : text.depth ∈ [2, 3, 2] := hvisited ▸ List.mem_map.mpr ⟨text, hmem, rfl⟩
    exact absurd hdepth (by decide)
  have hview : ((grouped.line "(a)" (text.pushAll group)).run (grouped.cacheAfter [])).result.map
      (fun run => (run.stack, run.tokens.map Token.span)) =
      .ok (text.pushAll group, [⟨0, 1⟩, ⟨1, 2⟩, ⟨2, 3⟩]) := by
    cbv
  obtain ⟨run, hr, hvalues⟩ := Scripted.exists_ok_of_map hview
  obtain ⟨hstack, hspans⟩ := Prod.mk.inj hvalues
  obtain ⟨run', hr', ⟨tail', htail, htail'⟩, htokens⟩ :=
    (outer_states_only_lend_scopes hengine "(a)" text quoted group [] [] hkept).exists_ok hr
  obtain rfl : group = tail' := (StateStack.mk.inj (hstack.symm.trans htail)).2
  refine ⟨hengine, hkept, run', hr', htail', ?_, fun token htoken => ?_⟩
  · rw [← hspans]
    exact (map_eq_map_of_forall₂ (htokens.imp fun _ _ h => h.1)).symm
  · obtain ⟨i, rfl⟩ := List.mem_iff_get.mp htoken
    have hi : i.val < run.tokens.length := by
      rw [htokens.length_eq]
      exact i.isLt
    obtain ⟨-, above, -, habove⟩ := htokens.get hi i.isLt
    exact ⟨above, habove.symm⟩

end Tokenizer

end LineScopes
