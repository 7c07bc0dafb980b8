/-
The match that begins first.

Choosing a plan goes through the plans twice, holds and drops compiled patterns on the way,
and stops at a match that cannot be beaten.  What comes of it is said here by the places of
the plans alone.

* `Engine.RefusesFirst` — the first plan whose pattern does not compile, and its error;
* `Engine.IsEarliest` — the match of the plan at some place begins first, and those of the
  plans in front of it begin later;
* `Engine.verdict_spec` — the verdict is one of these, or nothing is found;
* `choose_finds_earliest` — and choosing comes to that, whatever is held, and searches for
  nothing where a pattern does not compile.
-/
import LineScopes.Proofs.Reports

namespace LineScopes.Engine

variable {ε M : Type}

/-! ### Refused patterns -/

/-- The patterns of all plans compile. -/
def CompilesAll (engine : Engine ε M) (plans : List Plan) : Prop :=
  ∀ p ∈ plans, ∃ m, engine.compile p.pattern = .ok m

/-- The pattern of some plan is refused with this error, and those of all plans in front of it
compile. -/
def RefusesFirst (engine : Engine ε M) (plans : List Plan) (e : ε) : Prop :=
  ∃ (i : Nat) (p : Plan), plans[i]? = some p ∧ engine.compile p.pattern = .error e ∧
    engine.CompilesAll (plans.take i)

theorem refusal?_eq_some_iff {engine : Engine ε M} {p : Plan} {e : ε} :
    engine.refusal? p = some e ↔ engine.compile p.pattern = .error e := by
  cases h : engine.compile p.pattern <;> simp [refusal?, h]

theorem refusal?_eq_none_iff {engine : Engine ε M} {p : Plan} :
    engine.refusal? p = none ↔ ∃ m, engine.compile p.pattern = .ok m := by
  cases h : engine.compile p.pattern <;> simp [refusal?, h]

theorem compilesAll_iff {engine : Engine ε M} {plans : List Plan} :
    engine.CompilesAll plans ↔ plans.findSome? engine.refusal? = none := by
  simp only [CompilesAll, List.findSome?_eq_none_iff, refusal?_eq_none_iff]

/-- What is refused first is told by looking through the plans. -/
theorem refusesFirst_iff {engine : Engine ε M} {plans : List Plan} {e : ε} :
    engine.RefusesFirst plans e ↔ plans.findSome? engine.refusal? = some e := by
  rw [List.findSome?_eq_some_iff]
  constructor
  · rintro ⟨i, p, hp, he, hfront⟩
    obtain ⟨hi, rfl⟩ := List.getElem?_eq_some_iff.mp hp
    refine ⟨plans.take i, plans[i], plans.drop (i + 1), ?_, refusal?_eq_some_iff.mpr he, ?_⟩
    · rw [← List.drop_eq_getElem_cons hi, List.take_append_drop]
    · exact fun q hq => refusal?_eq_none_iff.mpr (hfront q hq)
  · rintro ⟨front, p, rest, rfl, he, hfront⟩
    refine ⟨front.length, p, by simp, refusal?_eq_some_iff.mp he, ?_⟩
    rw [List.take_left]
    exact fun q hq => refusal?_eq_none_iff.mp (hfront q hq)

/-! ### The match that begins first -/

/-- The match is that of the plan at place `i`; it begins first, and those of the plans in front
begin later. -/
structure IsEarliest (engine : Engine ε M) (plans : List Plan) (line : String) (start i : Nat)
    (c : Choice) : Prop where
  offered : ∃ p, plans[i]? = some p ∧ c.kind = p.kind ∧ c.rule = p.rule ∧
    engine.Finds p.pattern line start c.found
  earliest : ∀ {j q found}, plans[j]? = some q → engine.Finds q.pattern line start found →
    c.found.span.start < found.span.start ∨ c.found.span.start = found.span.start ∧ i ≤ j

theorem candidate?_eq_some_iff {engine : Engine ε M} {line : String} {start : Nat} {p : Plan}
    {c : Choice} :
    engine.candidate? line start p = some c ↔
      c.kind = p.kind ∧ c.rule = p.rule ∧ engine.Finds p.pattern line start c.found := by
  obtain ⟨kind, rule, found⟩ := c
  cases h : engine.compile p.pattern with
  | error e => simp [candidate?, Finds, h]
  | ok m =>
    simp only [candidate?, Finds, h, Option.map_eq_some_iff, Choice.mk.injEq, Except.ok.injEq,
      exists_eq_left']
    grind

/-- A search finds one match at most. -/
theorem Finds.eq {engine : Engine ε M} {pattern line : String} {start : Nat} {f f' : Match}
    (h : engine.Finds pattern line start f) (h' : engine.Finds pattern line start f') :
    f = f' := by
  obtain ⟨m, hm, hf⟩ := h
  obtain ⟨m', hm', hf'⟩ := h'
  obtain rfl := Except.ok.inj (hm.symm.trans hm')
  exact Option.some.inj (hf.symm.trans hf')

/-- One match begins first at most. -/
theorem IsEarliest.eq {engine : Engine ε M} {plans : List Plan} {line : String}
    {start i j : Nat} {c d : Choice} (hc : engine.IsEarliest plans line start i c)
    (hd : engine.IsEarliest plans line start j d) : c = d := by
  obtain ⟨p, hp, hckind, hcrule, hcfinds⟩ := hc.offered
  obtain ⟨q, hq, hdkind, hdrule, hdfinds⟩ := hd.offered
  have hle := hc.earliest hq hdfinds
  have hge := hd.earliest hp hcfinds
  obtain rfl : i = j := by omega
  obtain rfl : p = q := Option.some.inj (hp.symm.trans hq)
  obtain ⟨ckind, crule, cfound⟩ := c
  obtain ⟨dkind, drule, dfound⟩ := d
  obtain rfl : cfound = dfound := hcfinds.eq hdfinds
  dsimp only at hckind hcrule hdkind hdrule
  rw [hckind, hcrule, hdkind, hdrule]

/-- What begins first still does with one more plan behind the others, unless the match of that one
begins before it. -/
theorem IsEarliest.concat {engine : Engine ε M} {plans : List Plan} {line : String}
    {start i : Nat} {c : Choice} (h : engine.IsEarliest plans line start i c) {p : Plan}
    (hp : ∀ found, engine.Finds p.pattern line start found →
      c.found.span.start ≤ found.span.start) :
    engine.IsEarliest (plans ++ [p]) line start i c := by
  obtain ⟨q, hq, hc⟩ := h.offered
  have hi : i < plans.length := (List.getElem?_eq_some_iff.mp hq).1
  refine ⟨⟨q, by rw [List.getElem?_append_left hi, hq], hc⟩, ?_⟩
  intro j q found hj hfinds
  rcases Nat.lt_or_ge j plans.length with hlt | hge
  · rw [List.getElem?_append_left hlt] at hj
    exact h.earliest hj hfinds
  · rw [List.getElem?_append_right hge] at hj
    obtain rfl : q = p := List.mem_singleton.mp (List.mem_of_getElem? hj)
    have hle := hp found hfinds
    omega

/-- The match of a plan behind the others begins first if all of theirs begin later. -/
theorem isEarliest_last {engine : Engine ε M} {plans : List Plan} {line : String} {start : Nat}
    {p : Plan} {c : Choice} (hc : engine.candidate? line start p = some c)
    (h : ∀ q ∈ plans, ∀ found, engine.Finds q.pattern line start found →
      c.found.span.start < found.span.start) :
    engine.IsEarliest (plans ++ [p]) line start plans.length c := by
  refine ⟨⟨p, List.getElem?_concat_length, candidate?_eq_some_iff.mp hc⟩, ?_⟩
  intro j q found hj hfinds
  rcases Nat.lt_or_ge j plans.length with hlt | hge
  · rw [List.getElem?_append_left hlt] at hj
    exact .inl (h q (List.mem_of_getElem? hj) found hfinds)
  · rw [List.getElem?_append_right hge] at hj
    obtain rfl : q = p := List.mem_singleton.mp (List.mem_of_getElem? hj)
    obtain rfl : c.found = found := (candidate?_eq_some_iff.mp hc).2.2.eq hfinds
    exact .inr ⟨rfl, hge⟩

theorem not_finds_of_candidates_eq_nil {engine : Engine ε M} {line : String} {start : Nat}
    {plans : List Plan} (h : plans.filterMap (engine.candidate? line start) = []) {p : Plan}
    (hp : p ∈ plans) (found : Match) : ¬ engine.Finds p.pattern line start found := by
  intro hfinds
  have hnone := List.filterMap_eq_nil_iff.mp h p hp
  have hsome : engine.candidate? line start p = some ⟨p.kind, p.rule, found⟩ :=
    candidate?_eq_some_iff.mpr ⟨rfl, rfl, hfinds⟩
  cases hnone.symm.trans hsome

/-- The best of the candidates is a match that begins first. -/
theorem exists_isEarliest_of_argmin {engine : Engine ε M} {line : String} {start : Nat}
    {plans : List Plan} : ∀ {c : Choice},
      (plans.filterMap (engine.candidate? line start)).argmin (fun c => c.found.span.start) =
        some c → ∃ i, engine.IsEarliest plans line start i c := by
  -- The plans are put one behind the other, as the search goes through them.
  induction plans using List.reverseRecOn with
  | nil => exact nofun
  | append_singleton ps p ih =>
    intro c hc
    rw [List.filterMap_append] at hc
    cases hp : engine.candidate? line start p with
    | none =>
      rw [List.filterMap_cons_none hp, List.filterMap_nil, List.append_nil] at hc
      obtain ⟨i, hi⟩ := ih hc
      refine ⟨i, hi.concat fun found hfinds => ?_⟩
      cases hp.symm.trans (candidate?_eq_some_iff (c := ⟨_, _, _⟩).mpr ⟨rfl, rfl, hfinds⟩)
    | some d =>
      rw [List.filterMap_cons_some hp, List.filterMap_nil, List.argmin_concat] at hc
      cases hbest : (ps.filterMap (engine.candidate? line start)).argmin
          (fun c => c.found.span.start) with
      | none =>
        rw [hbest] at hc
        obtain rfl : d = c := Option.some.inj hc
        have hnil := List.argmin_eq_none.mp hbest
        exact ⟨_, isEarliest_last hp fun q hq found hfinds =>
          absurd hfinds (not_finds_of_candidates_eq_nil hnil hq found)⟩
      | some b =>
        rw [hbest] at hc
        obtain ⟨i, hi⟩ := ih hbest
        dsimp only at hc
        split at hc
        · next hlt =>
          obtain rfl : d = c := Option.some.inj hc
          refine ⟨_, isEarliest_last hp fun q hq found hfinds => ?_⟩
          obtain ⟨j, hj⟩ := List.getElem?_of_mem hq
          have hle := hi.earliest hj hfinds
          omega
        · next hnot =>
          obtain rfl : b = c := Option.some.inj hc
          refine ⟨i, hi.concat fun found hfinds => ?_⟩
          obtain rfl : d.found = found := (candidate?_eq_some_iff.mp hp).2.2.eq hfinds
          exact Nat.le_of_not_lt hnot

/-! ### The verdict by places -/

/-- The verdict is the error of the first plan that is refused, or that no search finds anything,
or the match that begins first. -/
theorem verdict_spec (engine : Engine ε M) (plans : List Plan) (line : String) (start : Nat) :
    match engine.verdict plans line start with
    | .error e => engine.RefusesFirst plans e
    | .ok none => engine.CompilesAll plans ∧
        ∀ p ∈ plans, ∀ found, ¬ engine.Finds p.pattern line start found
    | .ok (some c) => engine.CompilesAll plans ∧ ∃ i, engine.IsEarliest plans line start i c := by
  unfold verdict
  cases hr : plans.findSome? engine.refusal? with
  | some e => exact refusesFirst_iff.mpr hr
  | none =>
    have hall := compilesAll_iff.mpr hr
    cases hbest : (plans.filterMap (engine.candidate? line start)).argmin
        (fun c => c.found.span.start) with
    | none =>
      exact ⟨hall, fun p hp => not_finds_of_candidates_eq_nil (List.argmin_eq_none.mp hbest) hp⟩
    | some c => exact ⟨hall, exists_isEarliest_of_argmin hbest⟩

theorem not_compilesAll_of_refusesFirst {engine : Engine ε M} {plans : List Plan} {e : ε}
    (h : engine.RefusesFirst plans e) : ¬ engine.CompilesAll plans := by
  rw [compilesAll_iff, refusesFirst_iff.mp h]
  exact nofun

theorem verdict_eq_error_iff {engine : Engine ε M} {plans : List Plan} {line : String}
    {start : Nat} {e : ε} :
    engine.verdict plans line start = .error e ↔ engine.RefusesFirst plans e := by
  rw [refusesFirst_iff, verdict]
  cases plans.findSome? engine.refusal? <;> simp

theorem verdict_eq_none_iff {engine : Engine ε M} {plans : List Plan} {line : String}
    {start : Nat} :
    engine.verdict plans line start = .ok none ↔ engine.CompilesAll plans ∧
      ∀ p ∈ plans, ∀ found, ¬ engine.Finds p.pattern line start found := by
  have hspec := engine.verdict_spec plans line start
  constructor
  · intro h
    rwa [h] at hspec
  · rintro ⟨hall, hnothing⟩
    split at hspec
    · exact absurd hall (not_compilesAll_of_refusesFirst hspec)
    · next h => exact h
    · obtain ⟨-, i, hi⟩ := hspec
      obtain ⟨p, hp, -, -, hfinds⟩ := hi.offered
      exact absurd hfinds (hnothing p (List.mem_of_getElem? hp) _)

theorem verdict_eq_some_iff {engine : Engine ε M} {plans : List Plan} {line : String}
    {start : Nat} {c : Choice} :
    engine.verdict plans line start = .ok (some c) ↔
      engine.CompilesAll plans ∧ ∃ i, engine.IsEarliest plans line start i c := by
  have hspec := engine.verdict_spec plans line start
  constructor
  · intro h
    rwa [h] at hspec
  · rintro ⟨hall, i, hi⟩
    split at hspec
    · exact absurd hall (not_compilesAll_of_refusesFirst hspec)
    · obtain ⟨p, hp, -, -, hfinds⟩ := hi.offered
      exact absurd hfinds (hspec.2 p (List.mem_of_getElem? hp) _)
    · next d h =>
      obtain ⟨-, j, hj⟩ := hspec
      rw [h, hj.eq hi]

/-! ### Choosing -/

/-- Where choosing fails, it does so before the first search. -/
theorem isLookup_of_choose_eq_error {engine : Engine ε M} (hforward : engine.SearchesForward)
    {plans : List Plan} {line : String} {start : Nat} {cache : PatternCache M}
    (hc : engine.Coherent cache) {e : ε}
    (he : ((engine.choose plans line start).run cache).result = .error e) {event : Event}
    (hevent : event ∈ ((engine.choose plans line start).run cache).events) :
    event.isLookup := by
  rw [(yields_choose hforward plans line start cache hc).1, verdict_eq_error_iff,
    refusesFirst_iff] at he
  have hprepare := (yields_prepare engine plans cache hc).1
  rw [he] at hprepare
  rw [choose, Session.run_bind_of_error hprepare] at hevent
  exact engine.reports_prepare plans cache event hevent

/-- Choosing among plans, on any coherent cache.  It fails with the error of the first plan whose
pattern does not compile, if there is one, and then nothing was searched for.  Otherwise it finds
nothing if no search for a pattern does, or the match that begins first, that of the first plan
among equals. -/
theorem choose_finds_earliest {engine : Engine ε M} (hforward : engine.SearchesForward)
    (plans : List Plan) (line : String) (start : Nat) {cache : PatternCache M}
    (hc : engine.Coherent cache) :
    (∀ e, ((engine.choose plans line start).run cache).result = .error e ↔
      engine.RefusesFirst plans e) ∧
    (∀ e, ((engine.choose plans line start).run cache).result = .error e →
      ∀ pattern place found, Event.searched pattern place found ∉
        ((engine.choose plans line start).run cache).events) ∧
    (((engine.choose plans line start).run cache).result = .ok none ↔
      engine.CompilesAll plans ∧ ∀ p ∈ plans, ∀ found,
        ¬ engine.Finds p.pattern line start found) ∧
    (∀ c, ((engine.choose plans line start).run cache).result = .ok (some c) ↔
      engine.CompilesAll plans ∧ ∃ i, engine.IsEarliest plans line start i c) := by
  have hresult := (yields_choose hforward plans line start cache hc).1
  refine ⟨fun e => ?_, fun e he pattern place found hsearched => ?_, ?_, fun c => ?_⟩
  · rw [hresult, verdict_eq_error_iff]
  · cases isLookup_of_choose_eq_error hforward hc he hsearched
  · rw [hresult, verdict_eq_none_iff]
  · rw [hresult, verdict_eq_some_iff]

/-- An engine that compiles patterns to themselves.  The pattern `late` matches at the end of the
line, and all others where the search begins. -/
def textEngine : Engine Unit String where
  compile pattern := .ok pattern
  search pattern line start :=
    if pattern = "late" then
      some ⟨⟨max start line.utf8ByteSize, max start line.utf8ByteSize⟩, []⟩
    else some ⟨⟨start, start + 1⟩, []⟩

/-- Patterns with room for one more that is resolved. -/
def nearlyFull : PatternCache String :=
  ⟨[], (List.range 63).map fun i => (toString i, toString i)⟩

theorem searchesForward_textEngine : textEngine.SearchesForward := by
  rintro pattern line start found ⟨m, -, hfound⟩
  simp only [textEngine] at hfound
  split at hfound
  · obtain rfl := Option.some.inj hfound
    exact le_max_left _ _
  · obtain rfl := Option.some.inj hfound
    exact le_refl _

theorem coherent_nearlyFull : textEngine.Coherent nearlyFull := by
  refine ⟨nofun, fun {pattern m} h => ?_⟩
  obtain ⟨front, rest, hlist, -⟩ := List.lookup_eq_some_iff.mp h
  have hmem : (pattern, m) ∈ nearlyFull.resolved := by simp [hlist]
  obtain ⟨i, -, hi⟩ := List.mem_map.mp hmem
  obtain ⟨rfl, rfl⟩ := Prod.mk.inj hi
  rfl

/-- The pattern `late` is dropped between both passes and compiled again.  All the same, the first
of two plans that match at the start is chosen. -/
theorem choose_finds_earliest_across_drop :
    let plans : List Plan := [⟨.closing, 0, "late", true⟩, ⟨.closing, 1, "here", true⟩,
      ⟨.plain, 2, "there", false⟩]
    let outcome := (textEngine.choose plans "abc" 1).run nearlyFull
    textEngine.SearchesForward ∧ textEngine.Coherent nearlyFull ∧
      outcome.result = .ok (some ⟨.closing, 1, ⟨⟨1, 2⟩, []⟩⟩) ∧
      outcome.events.count (.compiling "late") = 2 := by
  intro plans outcome
  obtain ⟨-, -, -, hchosen⟩ :=
    choose_finds_earliest searchesForward_textEngine plans "abc" 1 coherent_nearlyFull
  have hcompiles : textEngine.CompilesAll plans := fun p _ => ⟨p.pattern, rfl⟩
  have hfirst : textEngine.IsEarliest plans "abc" 1 1 ⟨.closing, 1, ⟨⟨1, 2⟩, []⟩⟩ := by
    refine ⟨⟨plans[1], rfl, rfl, rfl, "here", rfl, by decide⟩, ?_⟩
    intro j q found hj hfinds
    have hstart := searchesForward_textEngine hfinds
    match j with
    | 0 =>
      -- The end of the line lies behind the place where the search begins.
      obtain rfl : plans[0] = q := Option.some.inj hj
      have hlate : textEngine.Finds "late" "abc" 1 ⟨⟨3, 3⟩, []⟩ := ⟨"late", rfl, by decide⟩
      obtain rfl := hlate.eq hfinds
      exact .inl (by decide)
    | j + 1 =>
      have hle : 1 ≤ j + 1 := Nat.le_add_left 1 j
      dsimp only
      omega
  exact ⟨searchesForward_textEngine, coherent_nearlyFull, (hchosen _).mpr ⟨hcompiles, 1, hfirst⟩,
    by decide +kernel⟩

end LineScopes.Engine
