/-
Plain matches without text.

A plain match without text changes neither the place nor the stack.  So the plans are the same
again, and with an engine that finds the first match of every pattern, each of them has the match
that it had before: the same plan is chosen a second time, and this ends the line.

* `Engine.FindsFirst.verdict_eq` — where a match was found, it is found again;
* `Choice.Idle` — a choice whose match is plain and has no text;
* `Tokenizer.run_takeTurns_of_idle` — behind such a choice the line ends;
* `Tokenizer.exists_stop_of_mem_events` — so a line on which one is reported ends with it, and
  does not fail;
* `plain_match_without_text_is_last` — what the run through such a line is.
-/
import LineScopes.Proofs.EarliestMatch
import LineScopes.Proofs.ScriptedEngine
import LineScopes.Proofs.Termination
import LineScopes.Proofs.Tiling

namespace LineScopes

/-! ### Searching again -/

namespace Engine

variable {ε M : Type} {engine : Engine ε M}

/-- A search that begins later, but not behind the match, finds the same. -/
theorem FindsFirst.search_eq (h : engine.FindsFirst) {pattern : String} {m : M}
    (hm : engine.compile pattern = .ok m) {line : String} {start start' : Nat}
    (hle : start ≤ start')
    (hlater : ∀ found, engine.search m line start = some found → start' ≤ found.span.start) :
    engine.search m line start' = engine.search m line start := by
  obtain ⟨matchAt, hstarts, hsearch⟩ := h hm line
  cases hnothing : engine.search m line start with
  | some found =>
    obtain ⟨-, hmatch, hnone⟩ := (hsearch start found).mp hnothing
    refine (hsearch start' found).mpr ⟨hlater found hnothing, hmatch, fun i hi => ?_⟩
    exact hnone i (hle.trans hi)
  | none =>
    by_contra hne
    obtain ⟨found, hfound⟩ := Option.ne_none_iff_exists'.mp hne
    obtain ⟨hstart', hmatch, -⟩ := (hsearch start' found).mp hfound
    have hexists : ∃ i, start ≤ i ∧ (matchAt i).isSome :=
      ⟨_, hle.trans hstart', by rw [hmatch]; rfl⟩
    -- The first match behind the earlier place would have been found from there.
    obtain ⟨hstart, hsome⟩ := Nat.find_spec hexists
    obtain ⟨first, hfirst⟩ := Option.isSome_iff_exists.mp hsome
    have hat := hstarts _ _ hfirst
    have hnone : ∀ i, start ≤ i → i < first.span.start → matchAt i = none := by
      intro i hi hlt
      rw [hat] at hlt
      have hleast := Nat.find_min hexists hlt
      exact Option.not_isSome_iff_eq_none.mp fun hi' => hleast ⟨hi, hi'⟩
    have hfound := (hsearch start first).mpr ⟨hat ▸ hstart, hat ▸ hfirst, hnone⟩
    cases hnothing.symm.trans hfound

/-- Among the same plans, the match that begins first is chosen again where it begins. -/
theorem FindsFirst.verdict_eq (h : engine.FindsFirst) {plans : List Plan} {line : String}
    {start : Nat} {c : Choice} (hc : engine.verdict plans line start = .ok (some c)) :
    engine.verdict plans line c.found.span.start = .ok (some c) := by
  obtain ⟨-, i, hi⟩ := verdict_eq_some_iff.mp hc
  obtain ⟨p, -, -, -, hfinds⟩ := hi.offered
  have hle := h.searchesForward hfinds
  have hsame : ∀ q ∈ plans,
      engine.candidate? line c.found.span.start q = engine.candidate? line start q := by
    intro q hq
    obtain ⟨j, hj⟩ := List.getElem?_of_mem hq
    unfold candidate?
    cases hm : engine.compile q.pattern with
    | error e => rfl
    | ok m =>
      -- No plan has a match in front of the one that is chosen.
      have hlater : ∀ found, engine.search m line start = some found →
          c.found.span.start ≤ found.span.start := by
        intro found hfound
        have hearliest := hi.earliest hj ⟨m, hm, hfound⟩
        omega
      simp only [h.search_eq hm hle hlater]
  rw [← hc, verdict, verdict, List.filterMap_congr hsame]

end Engine

/-! ### Idle choices -/

/-- The match is plain and has no text. -/
def Choice.Idle (c : Choice) : Prop := c.kind = .plain ∧ c.found.isEmpty

/-- The choice is idle, of the given rule and at the given byte. -/
def Choice.IdleAt (rule : RuleId) (i : Nat) (c : Choice) : Prop :=
  c.Idle ∧ c.rule = rule ∧ c.found.span.start = i

/-- An idle choice of the rule is applied at the byte, or found there again. -/
inductive Event.IdleAt (rule : RuleId) (i : Nat) : Event → Prop
  | applied : IdleAt rule i (.applying .plain rule ⟨i, i⟩)
  | again : IdleAt rule i (.repeatedEmptyMatch .plain rule i)

/-- No idle choice was applied on the way to the place. -/
def Place.Barren (p : Place) : Prop := ∀ e ∈ p.empties, e.2.1 ≠ .plain

theorem Place.Barren.not_repeats {p : Place} (h : p.Barren) {c : Choice} (hc : c.Idle) :
    ¬ p.Repeats c :=
  fun hr => h _ hr.2 hc.1

/-- The way goes on without an idle choice. -/
theorem Place.Barren.after {p : Place} (h : p.Barren) (g : Grammar) (line : String) {c : Choice}
    (hc : ¬ c.Idle) : (p.after g line c).Barren := by
  intro e he
  unfold Place.after at he
  dsimp only at he
  split at he
  · next hempty =>
    rcases List.mem_cons.mp he with rfl | he
    · exact fun hkind => hc ⟨hkind, hempty⟩
    · exact h e he
  · exact h e he

namespace Tokenizer

variable {ε M : Type} {t : Tokenizer ε M} {line : String} {p : Place} {c : Choice}

/-! ### Behind an idle choice -/

theorem stop_eq_start_of_idle (hengine : t.engine.StaysInLine)
    (hc : t.verdictAt line p = .ok (some c)) (hidle : c.Idle) :
    c.found.span.stop = c.found.span.start := by
  obtain ⟨-, hle, -⟩ := span_of_verdict hengine hc
  have hempty : c.found.span.stop ≤ c.found.span.start := by
    simpa [Match.isEmpty, Span.isEmpty] using hidle.2
  omega

/-- An idle choice leaves the stack as it is. -/
theorem stack_after_of_idle (hc : t.verdictAt line p = .ok (some c)) (hidle : c.Idle) :
    (p.after t.grammar line c).stack = p.stack := by
  obtain ⟨rule, hrule, -⟩ := exists_rule_of_verdict hc
  exact (applyChoice_plain hrule hidle.1).2

/-- It has no tokens. -/
theorem tokens_of_idle (hengine : t.engine.StaysInLine) (hc : t.verdictAt line p = .ok (some c))
    (hidle : c.Idle) : (applyChoice t.grammar line c p.stack).tokens = [] := by
  obtain ⟨rule, hrule, hallows⟩ := exists_rule_of_verdict hc
  obtain ⟨captures, s, htokens⟩ := exists_tokens_applyChoice line p.stack hrule hallows
  obtain ⟨-, hmatch, -⟩ := span_of_verdict hengine hc
  have htiles := (partition_matchTokens (P := fun _ => True) captures s hmatch
    ⟨⟨trivial, trivial⟩, fun _ _ _ _ => ⟨trivial, trivial⟩⟩).tiles
  rw [stop_eq_start_of_idle hengine hc hidle] at htiles
  rw [htokens, ← List.map_eq_nil_iff (f := Token.span), htiles.eq_nil_iff]

/-- It is chosen again. -/
theorem verdictAt_after_of_idle (hengine : t.engine.StaysInLine) (hfirst : t.engine.FindsFirst)
    (hc : t.verdictAt line p = .ok (some c)) (hidle : c.Idle) :
    t.verdictAt line (p.after t.grammar line c) = .ok (some c) := by
  have hpos : (p.after t.grammar line c).pos = c.found.span.start :=
    stop_eq_start_of_idle hengine hc hidle
  rw [verdictAt, stack_after_of_idle hc hidle, hpos]
  exact hfirst.verdict_eq hc

theorem repeats_after_of_idle (hidle : c.Idle) : (p.after t.grammar line c).Repeats c :=
  ⟨hidle.2, by simp [Place.after, hidle.2]⟩

/-- So it is the last one that is applied. -/
theorem run_takeTurns_of_idle (hengine : t.engine.StaysInLine) (hfirst : t.engine.FindsFirst)
    (hp : p.Barren) (hc : t.verdictAt line p = .ok (some c)) (hidle : c.Idle)
    {cache : PatternCache M} (hcache : t.engine.Coherent cache) (n : Nat) :
    let q := p.after t.grammar line c
    let turned := (t.turn line p).run cache
    let outcome := (t.takeTurns line (n + 2) p).run cache
    outcome.result = .ok (q.stopAt line.utf8ByteSize c) ∧
      outcome.events = turned.events ++ ((t.turn line q).run turned.cache).events := by
  intro q turned outcome
  have hforward := hengine.searchesForward
  obtain ⟨hturn, hcache'⟩ := yields_turn hforward line p cache hcache
  obtain ⟨hagain, -⟩ := yields_turn hforward line q _ hcache'
  rw [hc] at hturn
  rw [verdictAt_after_of_idle hengine hfirst hc hidle] at hagain
  have hmove : p.next t.grammar line (some c) = .inl q := if_neg (hp.not_repeats hidle)
  have hstop : q.next t.grammar line (some c) = .inr (q.stopAt line.utf8ByteSize c) :=
    if_pos (repeats_after_of_idle hidle)
  simp only [Except.map, hmove] at hturn
  simp only [Except.map, hstop] at hagain
  show ((t.takeTurns line (n + 2) p).run cache).result = _ ∧
    ((t.takeTurns line (n + 2) p).run cache).events = _
  rw [takeTurns, Session.run_bind_of_ok hturn]
  dsimp only
  rw [takeTurns, Session.run_bind_of_ok hagain]
  exact ⟨rfl, by simp [turned]⟩

/-! ### What is reported -/

/-- What is reported of a choice tells of an idle choice only if this is one. -/
theorem idleAt_of_mem_noted (hc : t.verdictAt line p = .ok (some c)) {rule : RuleId} {i : Nat}
    {e : Event} (he : e.IdleAt rule i) (hmem : e ∈ p.noted t.grammar line (some c)) :
    c.IdleAt rule i := by
  obtain ⟨kind, r, found⟩ := c
  by_cases hr : p.Repeats ⟨kind, r, found⟩
  · rw [Place.noted, if_pos hr] at hmem
    obtain rfl := List.mem_singleton.mp hmem
    cases he
    exact ⟨⟨rfl, hr.1⟩, rfl, rfl⟩
  · rw [Place.noted, if_neg hr] at hmem
    obtain ⟨_, hrule, -⟩ := exists_rule_of_verdict hc
    simp only [applyChoice, hrule] at hmem
    rcases List.mem_cons.mp hmem with rfl | hmem
    · obtain ⟨⟨start, stop⟩, groups⟩ := found
      cases he
      exact ⟨⟨rfl, by simp [Match.isEmpty, Span.isEmpty]⟩, rfl, rfl⟩
    · obtain rfl := eq_rootClosed_of_mem_applyRule hmem
      cases he

/-- A turn tells of an idle choice only if it comes to one. -/
theorem exists_idleAt_of_mem_turn (hforward : t.engine.SearchesForward) {cache : PatternCache M}
    (hcache : t.engine.Coherent cache) {rule : RuleId} {i : Nat} {e : Event}
    (he : e.IdleAt rule i) (hmem : e ∈ ((t.turn line p).run cache).events) :
    ∃ c, t.verdictAt line p = .ok (some c) ∧ c.IdleAt rule i := by
  have hchosen : ((t.engine.choose (t.grammar.plans p.stack) line p.pos).run cache).result =
      t.verdictAt line p :=
    (Engine.yields_choose hforward _ line p.pos cache hcache).1
  have hremark : e ∉ t.grammar.remarks p.stack := by
    intro hmem
    have hremark := Grammar.isRemark_of_mem_remarks hmem
    cases he <;> cases hremark
  have hcall : e ∉ ((t.engine.choose (t.grammar.plans p.stack) line p.pos).run cache).events := by
    intro hmem
    have hcall := t.engine.reports_choose _ line p.pos cache e hmem
    cases he <;> cases hcall
  rw [run_turn] at hmem
  dsimp only at hmem
  rw [hchosen] at hmem
  simp only [List.mem_append, hremark, hcall, false_or] at hmem
  cases hv : t.verdictAt line p with
  | error err =>
    rw [hv] at hmem
    cases hmem
  | ok choice =>
    rw [hv] at hmem
    cases choice with
    | none => cases hmem
    | some c => exact ⟨c, rfl, idleAt_of_mem_noted hv he hmem⟩

/-- A run that tells of an idle choice comes to its end at this choice, whatever it passed on its
way there. -/
theorem exists_stop_of_mem_events (hengine : t.engine.StaysInLine) (hfirst : t.engine.FindsFirst)
    {depth : Nat} {rule : RuleId} {i : Nat} {e : Event} (he : e.IdleAt rule i) (n : Nat) :
    ∀ {p : Place} {cache : PatternCache M}, t.engine.Coherent cache → p.Barren →
      p.Accounted t.grammar line.utf8ByteSize depth →
      matchLimit t.grammar line.utf8ByteSize < p.applied.length + n →
      e ∈ ((t.takeTurns line n p).run cache).events →
      ∃ q c, t.verdictAt line q = .ok (some c) ∧ c.IdleAt rule i ∧
        ((t.takeTurns line n p).run cache).result =
          .ok ((q.after t.grammar line c).stopAt line.utf8ByteSize c) := by
  have hforward := hengine.searchesForward
  induction n with
  | zero =>
    intro p cache _ _ _ _ hmem
    cases hmem
  | succ n ih =>
    intro p cache hcache hbarren hp hn hmem
    by_cases hidle : ∃ c, t.verdictAt line p = .ok (some c) ∧ c.Idle
    · obtain ⟨c, hc, hidle⟩ := hidle
      -- One more turn is left for the choice to be found again.
      have hmove : t.Moves line p (p.after t.grammar line c) :=
        .apply c hc (hbarren.not_repeats hidle)
      have hle := (accounted_of_moves hengine hp hmove).applied_le
      simp only [Place.after, List.length_cons] at hle
      obtain ⟨n, rfl⟩ : ∃ m, n = m + 1 := ⟨n - 1, by omega⟩
      obtain ⟨hresult, hevents⟩ := run_takeTurns_of_idle hengine hfirst hbarren hc hidle hcache n
      refine ⟨p, c, hc, ?_, hresult⟩
      -- Both turns come to this choice, so that it is told of in either of them.
      rw [hevents] at hmem
      rcases List.mem_append.mp hmem with hmem | hmem
      · obtain ⟨d, hd, hdidle⟩ := exists_idleAt_of_mem_turn hforward hcache he hmem
        obtain rfl : c = d := by simpa using hc.symm.trans hd
        exact hdidle
      · obtain ⟨d, hd, hdidle⟩ := exists_idleAt_of_mem_turn hforward
          ((t.settles_turn line p).coherent hcache) he hmem
        have hagain := verdictAt_after_of_idle hengine hfirst hc hidle
        obtain rfl : c = d := by simpa using hagain.symm.trans hd
        exact hdidle
    · have hturn : e ∉ ((t.turn line p).run cache).events := by
        intro hmem
        obtain ⟨c, hc, hcidle, -⟩ := exists_idleAt_of_mem_turn hforward hcache he hmem
        exact hidle ⟨c, hc, hcidle⟩
      rw [takeTurns] at hmem ⊢
      cases hr : ((t.turn line p).run cache).result with
      | error err =>
        rw [Session.run_bind_of_error hr] at hmem
        exact absurd hmem hturn
      | ok r =>
        rw [Session.run_bind_of_ok hr] at hmem ⊢
        have hrest := (List.mem_append.mp hmem).resolve_left hturn
        rcases moves_or_closes_of_turn hforward hcache hr with ⟨q, rfl, hmove⟩ | ⟨run, rfl, -⟩
        · obtain ⟨hq, hlength⟩ := accounted_of_turn hengine hp hcache hr
          obtain ⟨c, hc, -⟩ := hmove
          have hq' := hbarren.after t.grammar line fun hc' => hidle ⟨c, hc, hc'⟩
          exact ih ((t.settles_turn line p).coherent hcache) hq' hq (by omega) hrest
        · cases hrest

/-! ### The last match -/

/-- With an engine that stays in the line and finds the first match of every pattern, a plain match
without text is the last one of its line, whatever the grammar, the stack and the calls before: as
soon as one is reported, be it for the first or the second time, the line does not fail, this match
is the last one applied, the stack stays as it was before, and what is left of the line, if
anything, is one token with the scopes of that stack. -/
theorem plain_match_without_text_is_last (hengine : t.engine.StaysInLine)
    (hfirst : t.engine.FindsFirst) (calls : List Call) (line : String) (stack : StateStack)
    {rule : RuleId} {i : Nat} {e : Event} (he : e.IdleAt rule i)
    (hmem : e ∈ ((t.line line stack).run (t.cacheAfter calls)).events) :
    ∃ (run : LineRun) (earlier : List Applied) (last : Applied),
      ((t.line line stack).run (t.cacheAfter calls)).result = .ok run ∧
      run.applied = earlier ++ [last] ∧
      last.choice.kind = .plain ∧ last.choice.rule = rule ∧ last.choice.found.span = ⟨i, i⟩ ∧
      last.tokens = [] ∧ run.stack = last.before ∧ run.ending = .repeated last.choice ∧
      run.rest =
        if i < line.utf8ByteSize then [⟨⟨i, line.utf8ByteSize⟩, last.before.scopeNames⟩] else [] := by
  have hcache := t.coherent_cacheAfter calls
  unfold Tokenizer.line at hmem ⊢
  dsimp only at hmem ⊢
  split at hmem
  · -- A line that is not looked at reports its size only.
    obtain rfl := List.mem_singleton.mp hmem
    cases he
  · have hturns : matchLimit t.grammar line.utf8ByteSize <
        (Place.first stack).applied.length + turnLimit t.grammar line.utf8ByteSize := by
      unfold matchLimit turnLimit
      omega
    obtain ⟨q, c, hc, ⟨hidle, hrule, hstart⟩, hresult⟩ :=
      exists_stop_of_mem_events hengine hfirst he _ hcache (p := .first stack) nofun
        (Place.accounted_first t.grammar line.utf8ByteSize stack) hturns hmem
    have hstack := stack_after_of_idle hc hidle
    have hstop := (stop_eq_start_of_idle hengine hc hidle).trans hstart
    have hspan : c.found.span = ⟨i, i⟩ := by
      calc c.found.span = ⟨c.found.span.start, c.found.span.stop⟩ := rfl
        _ = ⟨i, i⟩ := by rw [hstart, hstop]
    refine ⟨_, q.applied.reverse, _, hresult, List.reverse_cons, hidle.1, hrule, hspan,
      tokens_of_idle hengine hc hidle, hstack, rfl, ?_⟩
    -- Nothing is left between the match and the place behind it.
    have hpos : (q.after t.grammar line c).pos = i := hstop
    simp [Place.stopAt, hpos, hstart, hstack, stretch]

/-- Groups in brackets, with a pattern that matches without text in front of a `b`. -/
def watchful : Tokenizer Scripted.NoEntry (List Scripted.Entry) where
  grammar := ⟨#[⟨.container, some (.ofString "text"), [1]⟩,
    ⟨.region ⟨"[(]", "[)]", .none, .none, .none⟩, some (.ofString "group"), [1, 2]⟩,
    ⟨.plain "(?=b)" .none, some (.ofString "mark"), []⟩], 0⟩
  engine := Scripted.engine
    [("[(]", [⟨⟨⟨1, 2⟩, []⟩, some "a(cb)(", none⟩, ⟨⟨⟨5, 6⟩, []⟩, some "a(cb)(", none⟩]),
      ("[)]", [⟨⟨⟨4, 5⟩, []⟩, some "a(cb)(", none⟩]),
      ("(?=b)", [⟨⟨⟨3, 3⟩, []⟩, some "a(cb)(", none⟩])]
  limit := none

/-- In the line `a(cb)(` the group is not closed any more, since the match in front of the `b` is
the last one. -/
theorem plain_match_without_text_is_last_in_group :
    watchful.engine.StaysInLine ∧ watchful.engine.FindsFirst ∧
    ∃ (run : LineRun) (earlier : List Applied) (last : Applied),
      ((watchful.line "a(cb)(" (.initial watchful.grammar)).run
        (watchful.cacheAfter [])).result = .ok run ∧
      run.applied = earlier ++ [last] ∧ last.choice.rule = 2 ∧
      last.choice.found.span = ⟨3, 3⟩ ∧ run.stack.depth = 2 ∧
      run.rest = [⟨⟨3, 6⟩, [.ofString "text", .ofString "group"]⟩] := by
  have hengine : watchful.engine.StaysInLine := Scripted.staysInLine (by decide)
  have hfirst : watchful.engine.FindsFirst := Scripted.findsFirst (by decide)
  have happlied : ((watchful.line "a(cb)(" (.initial watchful.grammar)).run
      (watchful.cacheAfter [])).events.filter Event.isApplying =
      [.applying .opening 1 ⟨1, 2⟩, .applying .plain 2 ⟨3, 3⟩] := by
    cbv
  have hevent : Event.applying .plain 2 ⟨3, 3⟩ ∈
      ((watchful.line "a(cb)(" (.initial watchful.grammar)).run
        (watchful.cacheAfter [])).events :=
    List.mem_of_mem_filter (happlied ▸ List.mem_cons_of_mem _ (List.mem_singleton_self _))
  obtain ⟨run, earlier, last, hresult, happlied, -, hrule, hspan, -, hstack, -, hrest⟩ :=
    plain_match_without_text_is_last hengine hfirst [] "a(cb)(" (.initial watchful.grammar)
      .applied hevent
  have hview : ((watchful.line "a(cb)(" (.initial watchful.grammar)).run
      (watchful.cacheAfter [])).result.map (fun run => (run.stack.depth, run.stack.scopeNames)) =
      .ok (2, [.ofString "text", .ofString "group"]) := by
    cbv
  rw [hresult] at hview
  obtain ⟨hdepth, hscopes⟩ := Prod.mk.inj (Except.ok.inj hview)
  refine ⟨hengine, hfirst, run, earlier, last, hresult, happlied, hrule, hspan, hdepth, ?_⟩
  rw [hrest, ← hstack, hscopes]
  exact if_pos (by decide)

end Tokenizer

end LineScopes
