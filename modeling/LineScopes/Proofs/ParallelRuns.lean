/-
A line from two stacks.

Of a stack, only the innermost state has a part in what is matched.  So two stacks that agree
there take the same course through a line, as long as closing states does not uncover a
difference, and their tokens differ as the scopes of the stacks do.

* `StateStack.Congruence` — a relation between stacks that opening and closing states keep,
  the latter down to stacks that are allowed;
* `Token.Parallel`, `Place.Parallel` — tokens and places from stacks that are related;
* `parallel_applyChoice` — a match keeps stacks related, and makes parallel tokens;
* `alike_line_of_congruence` — so does a line.
-/
import LineScopes.Proofs.Coverage
import LineScopes.Proofs.Names
import LineScopes.Proofs.TwoRuns

namespace LineScopes

/-- Related stacks have the same rule and closing pattern innermost, and stay related when the same
state is opened, and when the innermost one is closed if an allowed stack is left. -/
structure StateStack.Congruence (Allowed : StateStack → Prop)
    (S : StateStack → StateStack → Prop) : Prop where
  top : ∀ {s s'}, S s s' → s.top.bare = s'.top.bare
  push : ∀ {s s'}, S s s' → ∀ state, S (s.push state) (s'.push state)
  pop : ∀ {s s'}, S s s' → Allowed s.pop → S s.pop s'.pop

/-- The tokens have the same span, and the same scopes on top of those of related stacks. -/
def Token.Parallel (S : StateStack → StateStack → Prop) (a b : Token) : Prop :=
  a.span = b.span ∧
    ∃ s s' above, S s s' ∧ a.scopes = s.scopeNames ++ above ∧ b.scopes = s'.scopeNames ++ above

variable {Allowed : StateStack → Prop} {S : StateStack → StateStack → Prop}

/-! ### Tokens -/

theorem StateStack.parallel_lay {s s' : StateStack} (h : S s s') (ts : List Token) :
    List.Forall₂ (Token.Parallel S) (s.lay ts) (s'.lay ts) := by
  refine List.forall₂_map_left_iff.mpr (List.forall₂_map_right_iff.mpr ?_)
  exact List.forall₂_same.mpr fun t _ => ⟨rfl, s, s', t.scopes, h, rfl, rfl⟩

theorem parallel_stretch {s s' : StateStack} (h : S s s') (start stop : Nat) :
    List.Forall₂ (Token.Parallel S) (stretch start stop s) (stretch start stop s') := by
  rw [stretch_eq_lay, stretch_eq_lay]
  exact StateStack.parallel_lay h _

theorem parallel_matchTokens {s s' : StateStack} (h : S s s') {found : Match}
    (hle : found.span.start ≤ found.span.stop) (captures : Captures) :
    List.Forall₂ (Token.Parallel S) (matchTokens found captures s)
      (matchTokens found captures s') := by
  rw [matchTokens_eq_lay hle, matchTokens_eq_lay hle]
  exact StateStack.parallel_lay h _

/-- A match makes parallel tokens, and keeps stacks related if it leaves an allowed one. -/
theorem StateStack.Congruence.parallel_applyChoice (hS : Congruence Allowed S) {g : Grammar}
    {line : String} {c : Choice} (hle : c.found.span.start ≤ c.found.span.stop) {s s' : StateStack}
    (h : S s s') (hallowed : Allowed (applyChoice g line c s).stack) :
    S (applyChoice g line c s).stack (applyChoice g line c s').stack ∧
      List.Forall₂ (Token.Parallel S) (applyChoice g line c s).tokens
        (applyChoice g line c s').tokens := by
  unfold applyChoice at hallowed ⊢
  cases hrule : g.rule? c.rule with
  | none => exact ⟨h, .nil⟩
  | some rule =>
    simp only [hrule, applyRule] at hallowed ⊢
    cases hkind : c.kind with
    | plain => exact ⟨h, parallel_matchTokens (hS.push h _) hle _⟩
    | opening =>
      have hpush := hS.push h (openedState rule line c)
      cases rule.delimiters? with
      | none => exact ⟨hpush, .nil⟩
      | some d => exact ⟨hpush, parallel_matchTokens hpush hle _⟩
    | closing =>
      -- Closing is where a difference between the stacks could come to light.
      simp only [hkind] at hallowed
      cases hd : rule.delimiters? with
      | none =>
        rw [hd] at hallowed
        exact ⟨hS.pop h hallowed, .nil⟩
      | some d =>
        rw [hd] at hallowed
        exact ⟨hS.pop h hallowed, parallel_matchTokens h hle _⟩

/-! ### Places -/

/-- The places are at the same byte of lines that took the same course from related stacks. -/
structure Place.Parallel (S : StateStack → StateStack → Prop) (p q : Place) : Prop where
  pos : p.pos = q.pos
  stack : S p.stack q.stack
  empties : p.empties = q.empties
  tokens : List.Forall₂ (Token.Parallel S) p.tokens q.tokens

theorem Place.parallel_first {s s' : StateStack} (h : S s s') :
    (Place.first s).Parallel S (.first s') :=
  ⟨rfl, h, rfl, .nil⟩

theorem Ends.mono {size : Nat} {R R' : Place → Place → Prop} {run run' : LineRun}
    (h : Ends size R run run') (hR : ∀ {p q}, R p q → R' p q) : Ends size R' run run' := by
  cases h with
  | finish ending h => exact .finish ending (hR h)
  | repeated c h => exact .repeated c (hR h)

/-- Lines that end at parallel places have parallel tokens. -/
theorem Ends.parallel {size : Nat} {run run' : LineRun}
    (h : Ends size (Place.Parallel S) run run') :
    S run.stack run'.stack ∧ List.Forall₂ (Token.Parallel S) run.tokens run'.tokens := by
  cases h with
  | @finish ending p q h =>
    refine ⟨h.stack, List.rel_append h.tokens ?_⟩
    show List.Forall₂ _ (stretch p.pos size p.stack) (stretch q.pos size q.stack)
    rw [h.pos]
    exact parallel_stretch h.stack _ _
  | repeated c h =>
    refine ⟨h.stack, List.rel_append h.tokens (List.rel_append ?_ ?_)⟩
    · rw [h.pos]
      exact parallel_stretch h.stack _ _
    · exact parallel_stretch h.stack _ _

namespace Tokenizer

variable {ε M : Type} {t : Tokenizer ε M} {line : String}

/-- Places stay parallel on the way through a line, if all stacks on it are allowed. -/
theorem simulates_of_congruence (hengine : t.engine.StaysInLine)
    (hS : StateStack.Congruence Allowed S) :
    t.Simulates t.grammar line fun p q => p.Parallel S q ∧
      ∀ p', Relation.ReflTransGen (t.Moves line) p p' → Allowed p'.stack where
  size := rfl
  pos h := h.1.pos
  empties h := h.1.empties
  plans h := t.grammar.plans_congr (hS.top h.1.stack)
  after := by
    rintro p q c ⟨hpq, hallowed⟩ hc hnew
    have hmove : t.Moves line p (p.after t.grammar line c) := .apply c hc hnew
    obtain ⟨-, hle, -⟩ := span_of_verdict hengine hc
    obtain ⟨hstack, htokens⟩ :=
      hS.parallel_applyChoice hle hpq.stack (hallowed _ (.single hmove))
    refine ⟨⟨rfl, hstack, ?_, ?_⟩, fun p' hwalk => hallowed p' (.head hmove hwalk)⟩
    · show (if _ then _ else _) = (if _ then _ else _)
      rw [hpq.empties]
    · rw [Place.tokens_after, Place.tokens_after, hpq.pos]
      exact List.rel_append hpq.tokens (List.rel_append (parallel_stretch hpq.stack _ _) htokens)

/-- Lines from related stacks fail alike, or leave related stacks and have parallel tokens, if all
stacks on the way are allowed; there is no way through a line that is too long. -/
theorem alike_line_of_congruence (hengine : t.engine.StaysInLine)
    (hS : StateStack.Congruence Allowed S) {s s' : StateStack} (h : S s s')
    (hallowed : t.limit.filter (· < line.utf8ByteSize) = none →
      ∀ p, Relation.ReflTransGen (t.Moves line) (.first s) p → Allowed p.stack) :
    t.engine.Alike
      (fun run run' =>
        S run.stack run'.stack ∧ List.Forall₂ (Token.Parallel S) run.tokens run'.tokens)
      (t.line line s) (t.line line s') := by
  have hfirst := Place.parallel_first h
  cases hlimit : t.limit.filter (· < line.utf8ByteSize) with
  | some limit =>
    simp only [Tokenizer.line, hlimit]
    refine (Engine.alike_report rfl).bind fun _ _ _ => Engine.alike_pure ?_
    exact (Ends.finish .tooLong hfirst).parallel
  | none =>
    refine ((simulates_of_congruence hengine hS).alike_line hengine.searchesForward
      ⟨hfirst, hallowed hlimit⟩).mono fun run run' hends => ?_
    exact (hends.mono And.left).parallel

end Tokenizer

end LineScopes
