/-
The course of a line.

On a coherent cache, a turn depends on the place alone.  A line is then a walk from place
to place, each move applying one match, up to a place where nothing matches or a match
without text repeats.

* `Place.next` — where a choice leads from a place; `yields_turn` says that a turn leads
  there;
* `Tokenizer.Moves` and `Tokenizer.Closes` — a move, and the end of a line;
* `exists_walk_of_line` — the walk behind a run;
* `exists_rule_of_verdict` — a choice names a rule of the grammar that allows it, so that
  applying it always has an effect: `applyChoice_plain`, `applyChoice_opening` and
  `applyChoice_closing` say which.
-/
import LineScopes.Proofs.Expansion
import LineScopes.Proofs.History
import Mathlib.Logic.Relation

namespace LineScopes

/-! ### Where a choice leads -/

namespace Place

/-- The match has no text, and was applied at the same byte before. -/
def Repeats (p : Place) (c : Choice) : Prop :=
  c.found.isEmpty ∧ (c.found.span.start, c.kind, c.rule) ∈ p.empties

instance (p : Place) (c : Choice) : Decidable (p.Repeats c) :=
  inferInstanceAs (Decidable (_ ∧ _))

/-- The place behind a match that is applied. -/
def after (g : Grammar) (line : String) (p : Place) (c : Choice) : Place where
  pos := c.found.span.stop
  stack := (applyChoice g line c p.stack).stack
  empties :=
    if c.found.isEmpty then (c.found.span.start, c.kind, c.rule) :: p.empties else p.empties
  applied :=
    ⟨c, p.stack, stretch p.pos c.found.span.start p.stack, (applyChoice g line c p.stack).tokens⟩ ::
      p.applied

/-- The end of a line of the given size at a match that repeats. -/
def stopAt (size : Nat) (p : Place) (c : Choice) : LineRun where
  applied := p.applied.reverse
  ending := .repeated c
  rest := stretch p.pos c.found.span.start p.stack ++ stretch c.found.span.start size p.stack
  stack := p.stack

/-- Where a choice leads: to the place behind the match, or to the end of the line. -/
def next (g : Grammar) (line : String) (p : Place) : Option Choice → Place ⊕ LineRun
  | none => .inr (Tokenizer.finish line.utf8ByteSize .noMatch p)
  | some c =>
    if p.Repeats c then .inr (p.stopAt line.utf8ByteSize c) else .inl (p.after g line c)

/-- What is reported of a choice. -/
def noted (g : Grammar) (line : String) (p : Place) : Option Choice → List Event
  | none => []
  | some c =>
    if p.Repeats c then [.repeatedEmptyMatch c.kind c.rule c.found.span.start]
    else (applyChoice g line c p.stack).events

end Place

namespace Tokenizer

variable {ε M : Type}

/-- A turn chooses, reports of the choice, and goes where it leads. -/
theorem turn_eq (t : Tokenizer ε M) (line : String) (p : Place) :
    t.turn line p = (do
      Session.report (t.grammar.remarks p.stack)
      let choice ← t.engine.choose (t.grammar.plans p.stack) line p.pos
      Session.report (p.noted t.grammar line choice)
      pure (p.next t.grammar line choice)) := by
  unfold turn
  refine congrArg (Session.report _ >>= ·) (funext fun _ => ?_)
  refine congrArg (t.engine.choose _ line p.pos >>= ·) (funext fun choice => ?_)
  cases choice with
  | none => rfl
  | some c =>
    by_cases hr : p.Repeats c
    · simp only [Place.next, Place.noted, hr, if_true]
      exact if_pos hr
    · simp only [Place.next, Place.noted, hr, if_false]
      exact if_neg hr

theorem run_turn (t : Tokenizer ε M) (line : String) (p : Place) (cache : PatternCache M) :
    (t.turn line p).run cache =
      let chosen := (t.engine.choose (t.grammar.plans p.stack) line p.pos).run cache
      ⟨chosen.result.map (p.next t.grammar line), chosen.cache,
        t.grammar.remarks p.stack ++ (chosen.events ++
          match chosen.result with
          | .ok choice => p.noted t.grammar line choice
          | .error _ => [])⟩ := by
  rw [turn_eq, Session.run_bind, Session.run_report]
  dsimp only
  cases h : ((t.engine.choose (t.grammar.plans p.stack) line p.pos).run cache).result with
  | error e =>
    rw [Session.run_bind_of_error h]
    simp [Except.map]
  | ok choice =>
    rw [Session.run_bind_of_ok h]
    -- What is left reports the choice and comes to where it leads.
    simp [Except.map, Session.run_bind, -bind_pure_comp]

/-- What is chosen at a place. -/
def verdictAt (t : Tokenizer ε M) (line : String) (p : Place) : Except ε (Option Choice) :=
  t.engine.verdict (t.grammar.plans p.stack) line p.pos

/-- On a coherent cache, a turn goes where the verdict leads. -/
theorem yields_turn {t : Tokenizer ε M} (hforward : t.engine.SearchesForward) (line : String)
    (p : Place) :
    t.engine.Yields (t.turn line p) ((t.verdictAt line p).map (p.next t.grammar line)) := by
  intro cache hcache
  obtain ⟨hresult, hcoherent⟩ :=
    Engine.yields_choose hforward (t.grammar.plans p.stack) line p.pos cache hcache
  rw [run_turn]
  exact ⟨congrArg (Except.map _) hresult, hcoherent⟩

/-! ### Walks -/

/-- One match is applied on the way from a place to the next. -/
inductive Moves (t : Tokenizer ε M) (line : String) (p : Place) : Place → Prop
  | apply (c : Choice) (hc : t.verdictAt line p = .ok (some c)) (hnew : ¬ p.Repeats c) :
      Moves t line p (p.after t.grammar line c)

/-- The line comes to its end at a place. -/
inductive Closes (t : Tokenizer ε M) (line : String) (p : Place) : LineRun → Prop
  | noMatch (h : t.verdictAt line p = .ok none) :
      Closes t line p (finish line.utf8ByteSize .noMatch p)
  | repeated (c : Choice) (hc : t.verdictAt line p = .ok (some c)) (hr : p.Repeats c) :
      Closes t line p (p.stopAt line.utf8ByteSize c)

/-- What a turn that comes to a value has done. -/
theorem moves_or_closes_of_turn {t : Tokenizer ε M} (hforward : t.engine.SearchesForward)
    {line : String} {p : Place} {cache : PatternCache M} (hcache : t.engine.Coherent cache)
    {r : Place ⊕ LineRun} (h : ((t.turn line p).run cache).result = .ok r) :
    (∃ q, r = .inl q ∧ t.Moves line p q) ∨ ∃ run, r = .inr run ∧ t.Closes line p run := by
  rw [(yields_turn hforward line p cache hcache).1] at h
  cases hv : t.verdictAt line p with
  | error e =>
    rw [hv] at h
    cases h
  | ok choice =>
    rw [hv] at h
    obtain rfl := Except.ok.inj h
    cases choice with
    | none => exact .inr ⟨_, rfl, .noMatch hv⟩
    | some c =>
      by_cases hr : p.Repeats c
      · exact .inr ⟨p.stopAt line.utf8ByteSize c, if_pos hr, .repeated c hv hr⟩
      · exact .inl ⟨p.after t.grammar line c, if_neg hr, .apply c hv hr⟩

/-- The run from a place on is a walk to a place where the line closes, or where the turns are used
up. -/
theorem exists_walk_of_takeTurns {t : Tokenizer ε M} (hforward : t.engine.SearchesForward)
    {line : String} {run : LineRun} (n : Nat) :
    ∀ {p : Place} {cache : PatternCache M}, t.engine.Coherent cache →
      ((t.takeTurns line n p).run cache).result = .ok run →
      ∃ q, Relation.ReflTransGen (t.Moves line) p q ∧
        (t.Closes line q run ∨ run = finish line.utf8ByteSize .astray q ∧
          q.applied.length = p.applied.length + n) := by
  induction n with
  | zero =>
    intro p cache _ h
    exact ⟨p, .refl, .inr ⟨(Except.ok.inj h).symm, rfl⟩⟩
  | succ n ih =>
    intro p cache hcache h
    rw [takeTurns] at h
    obtain ⟨r, hturn, hrest⟩ := Session.exists_ok_of_result_bind h
    rcases moves_or_closes_of_turn hforward hcache hturn with
      ⟨q, rfl, hmove⟩ | ⟨run', rfl, hclose⟩
    · -- The cache after the turn is coherent again, so that the rest is a walk as well.
      obtain ⟨q', hwalk, hend⟩ := ih ((t.settles_turn line p).coherent hcache) hrest
      refine ⟨q', .head hmove hwalk, hend.imp_right fun ⟨heq, hlen⟩ => ⟨heq, ?_⟩⟩
      cases hmove
      simp only [Place.after, List.length_cons] at hlen
      omega
    · obtain rfl := Except.ok.inj hrest
      exact ⟨p, .refl, .inl hclose⟩

/-- The run through a line is that of a line that was not looked at, or a walk from the first
place. -/
theorem exists_walk_of_line {t : Tokenizer ε M} (hforward : t.engine.SearchesForward)
    {line : String} {stack : StateStack} {cache : PatternCache M}
    (hcache : t.engine.Coherent cache) {run : LineRun}
    (h : ((t.line line stack).run cache).result = .ok run) :
    run = finish line.utf8ByteSize .tooLong (.first stack) ∨
      ∃ q, Relation.ReflTransGen (t.Moves line) (.first stack) q ∧
        (t.Closes line q run ∨ run = finish line.utf8ByteSize .astray q) := by
  unfold Tokenizer.line at h
  dsimp only at h
  split at h
  · exact .inl (Except.ok.inj h).symm
  · obtain ⟨q, hwalk, hend⟩ := exists_walk_of_takeTurns hforward _ hcache h
    exact .inr ⟨q, hwalk, hend.imp_right And.left⟩

/-! ### What a choice does -/

/-- A choice names a rule of the grammar that allows it. -/
theorem exists_rule_of_verdict {t : Tokenizer ε M} {line : String} {p : Place} {c : Choice}
    (h : t.verdictAt line p = .ok (some c)) :
    ∃ rule, t.grammar.rule? c.rule = some rule ∧ rule.Allows c.kind := by
  obtain ⟨plan, hplan, hkind, hrule, -⟩ := Engine.offers_of_verdict h
  rw [hkind, hrule]
  exact Grammar.plans_allowed hplan

/-- An engine that stays in the line chooses matches between the place and the end. -/
theorem span_of_verdict {t : Tokenizer ε M} (hengine : t.engine.StaysInLine) {line : String}
    {p : Place} {c : Choice} (h : t.verdictAt line p = .ok (some c)) :
    p.pos ≤ c.found.span.start ∧ c.found.span.start ≤ c.found.span.stop ∧
      c.found.span.stop ≤ line.utf8ByteSize := by
  obtain ⟨plan, -, -, -, hfinds⟩ := Engine.offers_of_verdict h
  exact hengine hfinds

end Tokenizer

section Effects

variable {g : Grammar} {line : String} {c : Choice} {stack : StateStack} {rule : Rule}

/-- A plain match leaves the stack as it is. -/
theorem applyChoice_plain (hrule : g.rule? c.rule = some rule) (hkind : c.kind = .plain) :
    (applyChoice g line c stack).tokens =
        matchTokens c.found rule.captures (stack.push ⟨c.rule, rule.scope, none⟩) ∧
      (applyChoice g line c stack).stack = stack := by
  simp [applyChoice, hrule, applyRule, hkind]

/-- An opening match belongs to the state it opens. -/
theorem applyChoice_opening (hrule : g.rule? c.rule = some rule) (hkind : c.kind = .opening)
    {d : Delimiters} (hd : rule.delimiters? = some d) :
    (applyChoice g line c stack).tokens =
        matchTokens c.found d.openingCaptures (stack.push (openedState rule line c)) ∧
      (applyChoice g line c stack).stack = stack.push (openedState rule line c) := by
  simp [applyChoice, hrule, applyRule, hkind, hd]

/-- A closing match belongs to the state it closes. -/
theorem applyChoice_closing (hrule : g.rule? c.rule = some rule) (hkind : c.kind = .closing)
    {d : Delimiters} (hd : rule.delimiters? = some d) :
    (applyChoice g line c stack).tokens = matchTokens c.found d.closingCaptures stack ∧
      (applyChoice g line c stack).stack = stack.pop := by
  simp [applyChoice, hrule, applyRule, hkind, hd]

/-- A choice that its rule allows always gives its match to some state. -/
theorem exists_tokens_applyChoice (line : String) (stack : StateStack)
    (hrule : g.rule? c.rule = some rule) (hallows : rule.Allows c.kind) :
    ∃ captures s, (applyChoice g line c stack).tokens = matchTokens c.found captures s := by
  cases hkind : c.kind with
  | plain => exact ⟨_, _, (applyChoice_plain hrule hkind).1⟩
  | opening =>
    rw [hkind] at hallows
    obtain ⟨d, hd⟩ := hallows
    exact ⟨_, _, (applyChoice_opening hrule hkind hd).1⟩
  | closing =>
    rw [hkind] at hallows
    obtain ⟨d, hd⟩ := hallows
    exact ⟨_, _, (applyChoice_closing hrule hkind hd).1⟩

/-- A choice opens at most one state. -/
theorem depth_applyChoice_le (g : Grammar) (line : String) (c : Choice) (stack : StateStack) :
    (applyChoice g line c stack).stack.depth ≤ stack.depth + 1 := by
  have hpop : stack.pop.depth ≤ stack.depth := by
    simp [StateStack.depth, StateStack.pop]
  cases hrule : g.rule? c.rule with
  | none => simp [applyChoice, hrule]
  | some rule =>
    cases hkind : c.kind with
    | plain => simp [(applyChoice_plain hrule hkind).2]
    | opening =>
      cases hd : rule.delimiters? with
      | none => simp [applyChoice, hrule, applyRule, hkind, hd, StateStack.depth, StateStack.push]
      | some d => simp [(applyChoice_opening hrule hkind hd).2, StateStack.depth, StateStack.push]
    | closing =>
      cases hd : rule.delimiters? with
      | none =>
        simp only [applyChoice, hrule, applyRule, hkind, hd]
        omega
      | some d =>
        rw [(applyChoice_closing hrule hkind hd).2]
        omega

end Effects

end LineScopes
