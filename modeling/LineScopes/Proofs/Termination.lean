/-
Every line comes to its end.

A match with text uses up text, and a match without text can be applied only once at a
byte.  There are two kinds of such matches for a rule at most, so the matches that can be
applied in a line are bounded by its size and that of the grammar.

* `matchLimit` — the bound;
* `Place.Accounted` — the invariant: every match that was applied took text, or is one of
  the matches without text that are on record;
* `length_empties_le` — how many matches without text there can be on record;
* `line_ends_within_matchLimit` — a line ends by itself within the bound.
-/
import LineScopes.Proofs.Reports
import Mathlib

namespace LineScopes

/-- As many matches as can be applied in a line of the given size: one for each byte, and two for
each rule at each byte and at the end. -/
def matchLimit (g : Grammar) (size : Nat) : Nat := size + 2 * (size + 1) * g.size

/-! ### The record of matches without text -/

/-- A rule allows two kinds of matches at most: apart from those that close it, either plain
matches or those that open it. -/
theorem Rule.Allows.kind_eq {rule : Rule} {k l : PlanKind} (hk : rule.Allows k)
    (hl : rule.Allows l) (h : k = .closing ↔ l = .closing) : k = l := by
  cases k with
  | closing => exact (h.mp rfl).symm
  | plain =>
    obtain ⟨pattern, captures, hplain⟩ := hk
    cases l with
    | plain => rfl
    | closing => exact h.mpr rfl
    | opening =>
      obtain ⟨d, hd⟩ := hl
      simp [Rule.delimiters?, hplain] at hd
  | opening =>
    obtain ⟨d, hd⟩ := hk
    cases l with
    | plain =>
      obtain ⟨pattern, captures, hplain⟩ := hl
      simp [Rule.delimiters?, hplain] at hd
    | closing => exact h.mpr rfl
    | opening => rfl

/-- What is on record as a match without text: a byte of the line or its end, and a rule of the
grammar that allows matches of the kind. -/
def Grammar.OnRecord (g : Grammar) (size : Nat) (e : Nat × PlanKind × RuleId) : Prop :=
  e.1 ≤ size ∧ ∃ rule, g.rule? e.2.2 = some rule ∧ rule.Allows e.2.1

/-- There are at most two matches without text for each rule and byte. -/
theorem length_empties_le {g : Grammar} {size : Nat} {empties : List (Nat × PlanKind × RuleId)}
    (hnodup : empties.Nodup) (hrecord : ∀ e ∈ empties, g.OnRecord size e) :
    empties.length ≤ 2 * (size + 1) * g.size := by
  -- A record is told by its byte, its rule, and whether it closes.
  let slot : Nat × PlanKind × RuleId → Nat × RuleId × Bool :=
    fun e => (e.1, e.2.2, decide (e.2.1 = .closing))
  let slots := List.range (size + 1) ×ˢ (List.range g.size ×ˢ [false, true])
  have hslots : (empties.map slot).Nodup := by
    refine hnodup.map_on fun e he e' he' heq => ?_
    obtain ⟨b, k, r⟩ := e
    obtain ⟨b', k', r'⟩ := e'
    simp only [slot, Prod.mk.injEq, decide_eq_decide] at heq
    obtain ⟨rfl, rfl, hclosing⟩ := heq
    obtain ⟨-, rule, hrule, hk⟩ := hrecord _ he
    obtain ⟨-, rule', hrule', hk'⟩ := hrecord _ he'
    obtain rfl : rule = rule' := Option.some.inj (hrule.symm.trans hrule')
    obtain rfl : k = k' := hk.kind_eq hk' hclosing
    rfl
  have hsub : empties.map slot ⊆ slots := by
    intro x hx
    obtain ⟨e, he, rfl⟩ := List.mem_map.mp hx
    obtain ⟨hbyte, rule, hrule, -⟩ := hrecord e he
    obtain ⟨hlt, -⟩ := Array.getElem?_eq_some_iff.mp hrule
    simp only [slots, slot, List.mem_product, List.mem_range]
    refine ⟨by omega, hlt, ?_⟩
    cases decide (e.2.1 = .closing) <;> simp
  calc empties.length = (empties.map slot).length := (List.length_map slot).symm
    _ ≤ slots.length := hslots.length_le_of_subset hsub
    _ = (size + 1) * (g.size * 2) := by
      simp only [slots, List.length_product, List.length_range, List.length_cons, List.length_nil]
    _ = 2 * (size + 1) * g.size := by rw [Nat.mul_comm g.size, ← Nat.mul_assoc, Nat.mul_comm _ 2]

/-! ### The account -/

/-- The place lies in the line, every match applied so far took text or is on record, and each of
them opened one state at most. -/
structure Place.Accounted (g : Grammar) (size depth : Nat) (p : Place) : Prop where
  inside : p.pos ≤ size
  nodup : p.empties.Nodup
  record : ∀ e ∈ p.empties, g.OnRecord size e
  applied : p.applied.length ≤ p.pos + p.empties.length
  depth : p.stack.depth ≤ depth + p.applied.length

theorem Place.Accounted.applied_le {g : Grammar} {size depth : Nat} {p : Place}
    (h : p.Accounted g size depth) : p.applied.length ≤ matchLimit g size := by
  have hempties := length_empties_le h.nodup h.record
  have happlied := h.applied
  have hinside := h.inside
  unfold matchLimit
  omega

theorem Place.accounted_first (g : Grammar) (size : Nat) (stack : StateStack) :
    (Place.first stack).Accounted g size stack.depth where
  inside := Nat.zero_le size
  nodup := .nil
  record := nofun
  applied := Nat.le_refl 0
  depth := Nat.le_refl stack.depth

namespace Tokenizer

variable {ε M : Type} {t : Tokenizer ε M} {line : String}

/-- A move keeps the account: it takes text, or puts one more match on record. -/
theorem accounted_of_moves (hengine : t.engine.StaysInLine) {depth : Nat} {p q : Place}
    (hp : p.Accounted t.grammar line.utf8ByteSize depth) (hmove : t.Moves line p q) :
    q.Accounted t.grammar line.utf8ByteSize depth := by
  obtain ⟨c, hc, hnew⟩ := hmove
  obtain ⟨hgap, hmatch, hinside⟩ := span_of_verdict hengine hc
  have hdepth := depth_applyChoice_le t.grammar line c p.stack
  have hbefore := hp.depth
  have happlied := hp.applied
  have hopen : (applyChoice t.grammar line c p.stack).stack.depth ≤
      depth + (p.applied.length + 1) := by
    omega
  -- The place is paid for by the record in one case, by the text in the other.
  by_cases hempty : c.found.isEmpty
  · have hfresh : (c.found.span.start, c.kind, c.rule) ∉ p.empties := fun hmem =>
      hnew ⟨hempty, hmem⟩
    have hempties : (p.after t.grammar line c).empties =
        (c.found.span.start, c.kind, c.rule) :: p.empties := if_pos hempty
    refine ⟨hinside, ?_, ?_, ?_, hopen⟩
    · rw [hempties]
      exact hp.nodup.cons hfresh
    · rw [hempties]
      intro e he
      rcases List.mem_cons.mp he with rfl | he
      · exact ⟨hmatch.trans hinside, exists_rule_of_verdict hc⟩
      · exact hp.record e he
    · rw [hempties, List.length_cons]
      simp only [Place.after, List.length_cons]
      omega
  · have hfull : c.found.span.start < c.found.span.stop := by
      simpa [Match.isEmpty, Span.isEmpty] using hempty
    have hempties : (p.after t.grammar line c).empties = p.empties := if_neg hempty
    refine ⟨hinside, ?_, ?_, ?_, hopen⟩
    · rw [hempties]
      exact hp.nodup
    · rw [hempties]
      exact hp.record
    · rw [hempties]
      simp only [Place.after, List.length_cons]
      omega

theorem accounted_of_walk (hengine : t.engine.StaysInLine) {depth : Nat} {p q : Place}
    (hp : p.Accounted t.grammar line.utf8ByteSize depth)
    (hwalk : Relation.ReflTransGen (t.Moves line) p q) :
    q.Accounted t.grammar line.utf8ByteSize depth := by
  induction hwalk with
  | refl => exact hp
  | tail _ hmove ih => exact accounted_of_moves hengine ih hmove

/-- The place after a turn has one more match applied, and keeps the account. -/
theorem accounted_of_turn (hengine : t.engine.StaysInLine) {depth : Nat} {p q : Place}
    (hp : p.Accounted t.grammar line.utf8ByteSize depth) {cache : PatternCache M}
    (hcache : t.engine.Coherent cache)
    (hturn : ((t.turn line p).run cache).result = .ok (.inl q)) :
    q.Accounted t.grammar line.utf8ByteSize depth ∧ q.applied.length = p.applied.length + 1 := by
  rcases moves_or_closes_of_turn hengine.searchesForward hcache hturn with
    ⟨q', heq, hmove⟩ | ⟨run, heq, -⟩
  · obtain rfl := Sum.inl.inj heq
    refine ⟨accounted_of_moves hengine hp hmove, ?_⟩
    cases hmove
    rfl
  · cases heq

/-! ### Runs -/

/-- As long as there are more turns than matches can still be applied, their number makes no
difference. -/
theorem run_takeTurns_congr (hengine : t.engine.StaysInLine) {depth : Nat} (m : Nat) :
    ∀ {n : Nat} {p : Place} {cache : PatternCache M}, t.engine.Coherent cache →
      p.Accounted t.grammar line.utf8ByteSize depth →
      matchLimit t.grammar line.utf8ByteSize < p.applied.length + m →
      matchLimit t.grammar line.utf8ByteSize < p.applied.length + n →
      (t.takeTurns line m p).run cache = (t.takeTurns line n p).run cache := by
  induction m with
  | zero =>
    -- No turn is left only when more matches were applied than can be.
    intro n p cache _ hp hm _
    have hle := hp.applied_le
    omega
  | succ m ih =>
    intro n p cache hcache hp hm hn
    cases n with
    | zero =>
      have hle := hp.applied_le
      omega
    | succ n =>
      rw [takeTurns, takeTurns]
      cases hturn : ((t.turn line p).run cache).result with
      | error e => rw [Session.run_bind_of_error hturn, Session.run_bind_of_error hturn]
      | ok r =>
        rw [Session.run_bind_of_ok hturn, Session.run_bind_of_ok hturn]
        cases r with
        | inr run => rfl
        | inl q =>
          obtain ⟨hq, hlength⟩ := accounted_of_turn hengine hp hcache hturn
          have hrest := ih ((t.settles_turn line p).coherent hcache) hq (n := n)
            (by omega) (by omega)
          dsimp only
          rw [hrest]

/-- The matches applied from a place on are within the bound together with those before, also where
an error ends the line. -/
theorem countP_events_takeTurns (hengine : t.engine.StaysInLine) {depth : Nat} (n : Nat) :
    ∀ {p : Place} {cache : PatternCache M}, t.engine.Coherent cache →
      p.Accounted t.grammar line.utf8ByteSize depth →
      ((t.takeTurns line n p).run cache).events.countP Event.isApplying + p.applied.length ≤
        matchLimit t.grammar line.utf8ByteSize := by
  induction n with
  | zero =>
    intro p cache _ hp
    show 0 + p.applied.length ≤ _
    rw [Nat.zero_add]
    exact hp.applied_le
  | succ n ih =>
    intro p cache hcache hp
    have hcount := t.countP_events_turn line p cache
    have hle := hp.applied_le
    rw [takeTurns]
    cases hturn : ((t.turn line p).run cache).result with
    | error e =>
      rw [Session.run_bind_of_error hturn]
      simp only [hturn] at hcount ⊢
      omega
    | ok r =>
      rw [Session.run_bind_of_ok hturn, List.countP_append]
      cases r with
      | inr run =>
        simp only [hturn] at hcount
        show _ + 0 + _ ≤ _
        omega
      | inl q =>
        obtain ⟨hq, hlength⟩ := accounted_of_turn hengine hp hcache hturn
        have hrest := ih ((t.settles_turn line p).coherent hcache) hq
        simp only [hturn] at hcount
        dsimp only
        omega

/-- With more turns than matches can be applied, a line ends at a place that keeps the account. -/
theorem exists_closes_of_takeTurns (hengine : t.engine.StaysInLine) {stack : StateStack} {n : Nat}
    (hn : matchLimit t.grammar line.utf8ByteSize < n) {cache : PatternCache M}
    (hcache : t.engine.Coherent cache) {run : LineRun}
    (h : ((t.takeTurns line n (.first stack)).run cache).result = .ok run) :
    ∃ q, q.Accounted t.grammar line.utf8ByteSize stack.depth ∧ t.Closes line q run := by
  obtain ⟨q, hwalk, hend⟩ := exists_walk_of_takeTurns hengine.searchesForward n hcache h
  have hq := accounted_of_walk hengine (Place.accounted_first _ _ stack) hwalk
  rcases hend with hclose | ⟨-, hlength⟩
  · exact ⟨q, hq, hclose⟩
  · have hle := hq.applied_le
    have hfirst : (Place.first stack).applied.length = 0 := rfl
    omega

/-- The end of a line at a place has the matches and the stack of the place. -/
theorem Closes.spec {p : Place} {run : LineRun} (h : t.Closes line p run) :
    run.applied = p.applied.reverse ∧ run.stack = p.stack ∧ run.ending ≠ .astray := by
  cases h with
  | noMatch h => exact ⟨rfl, rfl, nofun⟩
  | repeated c hc hr => exact ⟨rfl, rfl, nofun⟩

/-- With an engine that stays in the line, every line ends by itself, whatever the grammar, the
stack and the calls before: beyond the bound, the number of turns allowed makes no difference to
the outcome, and turns are never used up.  A line, also one that fails, applies at most as many
matches as the bound says, and opens at most as many states. -/
theorem line_ends_within_matchLimit (hengine : t.engine.StaysInLine) (calls : List Call)
    (line : String) (stack : StateStack) :
    (∀ n, matchLimit t.grammar line.utf8ByteSize < n →
      (t.takeTurns line n (.first stack)).run (t.cacheAfter calls) =
        (t.takeTurns line (matchLimit t.grammar line.utf8ByteSize + 1) (.first stack)).run
          (t.cacheAfter calls) ∧
      ∀ run, ((t.takeTurns line n (.first stack)).run (t.cacheAfter calls)).result = .ok run →
        run.ending ≠ .astray) ∧
    ((t.line line stack).run (t.cacheAfter calls)).events.countP Event.isApplying ≤
      matchLimit t.grammar line.utf8ByteSize ∧
    ∀ run, ((t.line line stack).run (t.cacheAfter calls)).result = .ok run →
      run.ending ≠ .astray ∧
      run.applied.length ≤ matchLimit t.grammar line.utf8ByteSize ∧
      run.stack.depth ≤ stack.depth + matchLimit t.grammar line.utf8ByteSize := by
  have hcache := t.coherent_cacheAfter calls
  have hfirst := Place.accounted_first t.grammar line.utf8ByteSize stack
  have hturns : matchLimit t.grammar line.utf8ByteSize < turnLimit t.grammar line.utf8ByteSize := by
    unfold matchLimit turnLimit
    omega
  refine ⟨fun n hn => ⟨?_, fun run h => ?_⟩, ?_, fun run h => ?_⟩
  · refine run_takeTurns_congr hengine n hcache hfirst ?_ ?_
    · omega
    · omega
  · obtain ⟨q, -, hclose⟩ := exists_closes_of_takeTurns hengine hn hcache h
    exact hclose.spec.2.2
  · unfold Tokenizer.line
    dsimp only
    split
    · exact Nat.zero_le _
    · exact countP_events_takeTurns hengine _ hcache hfirst
  · unfold Tokenizer.line at h
    dsimp only at h
    split at h
    · obtain rfl := Except.ok.inj h
      exact ⟨nofun, Nat.zero_le _, Nat.le_add_right _ _⟩
    · obtain ⟨q, hq, hclose⟩ := exists_closes_of_takeTurns hengine hturns hcache h
      obtain ⟨happlied, hstack, hending⟩ := hclose.spec
      have hle := hq.applied_le
      have hdepth := hq.depth
      rw [happlied, hstack, List.length_reverse]
      exact ⟨hending, hle, by omega⟩

/-- A region that opens and closes without text in front of an `x`, and lists itself. -/
def blinking : Tokenizer Scripted.NoEntry (List Scripted.Entry) where
  grammar := ⟨#[⟨.container, none, [1]⟩,
    ⟨.region ⟨"(?=x)", "(?!y)", .none, .none, .none⟩, some (.ofString "blink"), [1]⟩], 0⟩
  engine := Scripted.engine
    [("(?=x)", [⟨⟨⟨0, 0⟩, []⟩, some "x", none⟩]), ("(?!y)", [⟨⟨⟨0, 0⟩, []⟩, some "x", none⟩])]
  limit := none

/-- In the line `x` it opens and closes once, and would open again. -/
theorem blinking_line_ends :
    blinking.engine.StaysInLine ∧
    ((blinking.line "x" (.initial blinking.grammar)).run (blinking.cacheAfter [])).result.map
        (fun run => (run.applied.map fun a => a.choice.kind, run.ending)) =
      .ok ([.opening, .closing], .repeated ⟨.opening, 1, ⟨⟨0, 0⟩, []⟩⟩) ∧
    matchLimit blinking.grammar "x".utf8ByteSize = 9 ∧
    ((blinking.line "x" (.initial blinking.grammar)).run
      (blinking.cacheAfter [])).events.countP Event.isApplying ≤ 9 ∧
    ∀ n, 9 < n →
      (blinking.takeTurns "x" n (.first (.initial blinking.grammar))).run (blinking.cacheAfter []) =
        (blinking.takeTurns "x" 10 (.first (.initial blinking.grammar))).run
          (blinking.cacheAfter []) := by
  have hengine : blinking.engine.StaysInLine := Scripted.staysInLine (by decide)
  obtain ⟨hturns, hcount, -⟩ :=
    line_ends_within_matchLimit hengine [] "x" (.initial blinking.grammar)
  exact ⟨hengine, by cbv, rfl, hcount, fun n hn => (hturns n hn).1⟩

end Tokenizer

end LineScopes
