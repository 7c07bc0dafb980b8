/-
Patterns held by a cache.

A cache only saves work: as long as every pattern in it is held with the matcher that
the engine compiles it to, no session can tell which patterns are held.

* `Engine.Coherent` — what is held is what the engine compiles;
* `Engine.Yields` — a session has the same result on every coherent cache, and leaves
  a coherent one;
* `yields_matcher`, `yields_resolvedMatcher` — asking for a matcher yields what the
  engine compiles now, also where resolved patterns are dropped on the way;
* `settles_choose` — so choosing a plan does not depend on the cache.
-/
import LineScopes.Plan

namespace LineScopes

namespace Session

variable {ε M α β : Type}

/-- A session goes on with its second part if the first one came to a value. -/
theorem run_bind (x : Session ε M α) (f : α → Session ε M β) (cache : PatternCache M) :
    (x >>= f).run cache =
      match (x.run cache).result with
      | .ok a =>
        { (f a).run (x.run cache).cache with
          events := (x.run cache).events ++ ((f a).run (x.run cache).cache).events }
      | .error e => ⟨.error e, (x.run cache).cache, (x.run cache).events⟩ := rfl

theorem result_bind_of_ok {x : Session ε M α} {cache : PatternCache M} {a : α}
    (h : (x.run cache).result = .ok a) (f : α → Session ε M β) :
    ((x >>= f).run cache).result = ((f a).run (x.run cache).cache).result := by
  rw [run_bind_of_ok h]

theorem result_bind_of_error {x : Session ε M α} {cache : PatternCache M} {e : ε}
    (h : (x.run cache).result = .error e) (f : α → Session ε M β) :
    ((x >>= f).run cache).result = .error e := by
  rw [run_bind_of_error h]

/-- A session with two parts comes to a value if the first part does, and then the second. -/
theorem exists_ok_of_result_bind {x : Session ε M α} {f : α → Session ε M β}
    {cache : PatternCache M} {b : β} (h : ((x >>= f).run cache).result = .ok b) :
    ∃ a, (x.run cache).result = .ok a ∧ ((f a).run (x.run cache).cache).result = .ok b := by
  cases hx : (x.run cache).result with
  | error e =>
    rw [result_bind_of_error hx] at h
    cases h
  | ok a =>
    rw [result_bind_of_ok hx] at h
    exact ⟨a, rfl, h⟩

end Session

namespace Engine

variable {ε M α β : Type}

/-! ### Asking for a matcher -/

theorem run_compileNow (engine : Engine ε M) (pattern : String) (cache : PatternCache M) :
    (engine.compileNow pattern).run cache =
      ⟨engine.compile pattern, cache,
        [.compiling pattern, .compiled pattern (engine.compile pattern).isOk]⟩ := by
  cases h : engine.compile pattern with
  | ok m =>
    rw [compileNow, h]
    rfl
  | error e =>
    rw [compileNow, h]
    rfl

theorem run_matcher_of_held (engine : Engine ε M) {pattern : String} {cache : PatternCache M}
    {m : M} (h : cache.grammar.lookup pattern = some m) :
    (engine.matcher pattern).run cache = ⟨.ok m, cache, []⟩ := by
  simp [matcher, Session.run_bind, h]

theorem run_matcher_of_absent (engine : Engine ε M) {pattern : String} {cache : PatternCache M}
    (h : cache.grammar.lookup pattern = none) :
    (engine.matcher pattern).run cache =
      ⟨engine.compile pattern,
        match engine.compile pattern with
        | .ok m => { cache with grammar := (pattern, m) :: cache.grammar }
        | .error _ => cache,
        [.compiling pattern, .compiled pattern (engine.compile pattern).isOk]⟩ := by
  cases hc : engine.compile pattern with
  | ok m => simp [matcher, Session.run_bind, h, run_compileNow, hc, -bind_pure_comp]
  | error e => simp [matcher, Session.run_bind, h, run_compileNow, hc]

theorem run_resolvedMatcher_of_held (engine : Engine ε M) {pattern : String}
    {cache : PatternCache M} {m : M} (h : cache.resolved.lookup pattern = some m) :
    (engine.resolvedMatcher pattern).run cache = ⟨.ok m, cache, []⟩ := by
  simp [resolvedMatcher, Session.run_bind, h]

/-- The cache once there is room for another resolved pattern. -/
def roomy (cache : PatternCache M) : PatternCache M :=
  if resolvedLimit ≤ cache.resolved.length then { cache with resolved := [] } else cache

theorem run_makeRoom (cache : PatternCache M) :
    (makeRoom : Session ε M Unit).run cache =
      ⟨.ok (), roomy cache,
        if resolvedLimit ≤ cache.resolved.length then [.droppingResolved cache.resolved.length]
        else []⟩ := by
  by_cases h : resolvedLimit ≤ cache.resolved.length
  · simp [makeRoom, roomy, Session.run_bind, h]
  · simp [makeRoom, roomy, Session.run_bind, h]

theorem run_resolvedMatcher_of_absent (engine : Engine ε M) {pattern : String}
    {cache : PatternCache M} (h : cache.resolved.lookup pattern = none) :
    (engine.resolvedMatcher pattern).run cache =
      ⟨engine.compile pattern,
        match engine.compile pattern with
        | .ok m => { roomy cache with resolved := (pattern, m) :: (roomy cache).resolved }
        | .error _ => roomy cache,
        (if resolvedLimit ≤ cache.resolved.length then [.droppingResolved cache.resolved.length]
          else []) ++
        [.compiling pattern, .compiled pattern (engine.compile pattern).isOk]⟩ := by
  cases hc : engine.compile pattern with
  | ok m =>
    simp [resolvedMatcher, Session.run_bind, h, run_makeRoom, run_compileNow, hc,
      -bind_pure_comp]
  | error e => simp [resolvedMatcher, Session.run_bind, h, run_makeRoom, run_compileNow, hc]

/-! ### Coherent caches -/

/-- What is held for a pattern is what the engine compiles it to. -/
structure Coherent (engine : Engine ε M) (cache : PatternCache M) : Prop where
  grammar : ∀ {pattern m}, cache.grammar.lookup pattern = some m → engine.compile pattern = .ok m
  resolved : ∀ {pattern m}, cache.resolved.lookup pattern = some m → engine.compile pattern = .ok m

theorem coherent_empty (engine : Engine ε M) : engine.Coherent .empty where
  grammar h := nomatch h
  resolved h := nomatch h

/-- Holding one more pattern, with what it compiles to, keeps a list of held patterns right. -/
theorem compile_of_lookup_cons {engine : Engine ε M} {held : List (String × M)} {pattern : String}
    {m : M} (hm : engine.compile pattern = .ok m)
    (hheld : ∀ {q n}, held.lookup q = some n → engine.compile q = .ok n) {q : String} {n : M}
    (h : ((pattern, m) :: held).lookup q = some n) : engine.compile q = .ok n := by
  rw [List.lookup_cons] at h
  split at h
  · rename_i heq
    obtain rfl : q = pattern := by simpa using heq
    rw [hm, Option.some.inj h]
  · exact hheld h

theorem coherent_roomy {engine : Engine ε M} {cache : PatternCache M} (h : engine.Coherent cache) :
    engine.Coherent (roomy cache) := by
  rw [roomy]
  split
  · exact ⟨h.grammar, fun hl => nomatch hl⟩
  · exact h

/-- The session comes to `r` whatever is held, and what is held afterwards is right again. -/
def Yields (engine : Engine ε M) (x : Session ε M α) (r : Except ε α) : Prop :=
  ∀ cache, engine.Coherent cache →
    (x.run cache).result = r ∧ engine.Coherent (x.run cache).cache

theorem yields_pure (engine : Engine ε M) (a : α) : engine.Yields (pure a) (.ok a) :=
  fun _ h => ⟨rfl, h⟩

theorem yields_report (engine : Engine ε M) (events : List Event) :
    engine.Yields (Session.report events) (.ok ()) :=
  fun _ h => ⟨rfl, h⟩

theorem Yields.bind {engine : Engine ε M} {x : Session ε M α} {f : α → Session ε M β}
    {r : Except ε α} {g : α → Except ε β} (hx : engine.Yields x r)
    (hf : ∀ a, r = .ok a → engine.Yields (f a) (g a)) : engine.Yields (x >>= f) (r >>= g) := by
  intro cache h
  obtain ⟨hr, hc⟩ := hx cache h
  cases r with
  | ok a =>
    rw [Session.run_bind_of_ok hr]
    exact hf a rfl _ hc
  | error e =>
    rw [Session.run_bind_of_error hr]
    exact ⟨rfl, hc⟩

/-- Asking for the matcher of a pattern of the grammar comes to what the engine compiles now. -/
theorem yields_matcher (engine : Engine ε M) (pattern : String) :
    engine.Yields (engine.matcher pattern) (engine.compile pattern) := by
  intro cache h
  cases hl : cache.grammar.lookup pattern with
  | some m =>
    rw [run_matcher_of_held engine hl]
    exact ⟨(h.grammar hl).symm, h⟩
  | none =>
    rw [run_matcher_of_absent engine hl]
    refine ⟨rfl, ?_⟩
    cases hm : engine.compile pattern with
    | ok m => exact ⟨compile_of_lookup_cons hm h.grammar, h.resolved⟩
    | error e => exact h

/-- Asking for the matcher of a resolved pattern comes to what the engine compiles now, whether or
not the resolved patterns are dropped for it. -/
theorem yields_resolvedMatcher (engine : Engine ε M) (pattern : String) :
    engine.Yields (engine.resolvedMatcher pattern) (engine.compile pattern) := by
  intro cache h
  cases hl : cache.resolved.lookup pattern with
  | some m =>
    rw [run_resolvedMatcher_of_held engine hl]
    exact ⟨(h.resolved hl).symm, h⟩
  | none =>
    rw [run_resolvedMatcher_of_absent engine hl]
    refine ⟨rfl, ?_⟩
    -- Dropping resolved patterns keeps those of the grammar, and an empty list is right anyway.
    have hroomy := coherent_roomy h
    cases hm : engine.compile pattern with
    | ok m => exact ⟨hroomy.grammar, compile_of_lookup_cons hm hroomy.resolved⟩
    | error e => exact hroomy

theorem yields_planMatcher (engine : Engine ε M) (p : Plan) :
    engine.Yields (engine.planMatcher p) (engine.compile p.pattern) := by
  rw [planMatcher]
  split
  · exact yields_resolvedMatcher engine p.pattern
  · exact yields_matcher engine p.pattern

/-! ### Sessions that do not depend on the cache -/

/-- The session comes to the same result on every coherent cache. -/
def Settles (engine : Engine ε M) (x : Session ε M α) : Prop := ∃ r, engine.Yields x r

theorem settles_pure (engine : Engine ε M) (a : α) : engine.Settles (pure a) :=
  ⟨_, yields_pure engine a⟩

theorem settles_report (engine : Engine ε M) (events : List Event) :
    engine.Settles (Session.report events) :=
  ⟨_, yields_report engine events⟩

theorem Settles.bind {engine : Engine ε M} {x : Session ε M α} {f : α → Session ε M β}
    (hx : engine.Settles x) (hf : ∀ a, engine.Settles (f a)) : engine.Settles (x >>= f) := by
  obtain ⟨r, hr⟩ := hx
  -- Only the value that the first part settles on is ever handed on.
  cases r with
  | ok a =>
    obtain ⟨s, hs⟩ := hf a
    refine ⟨s, hr.bind (g := fun _ => s) fun b hb => ?_⟩
    rwa [← Except.ok.inj hb]
  | error e => exact ⟨.error e, hr.bind (g := fun _ => .error e) fun b hb => nomatch hb⟩

/-- A session that settles leaves a coherent cache, also when it fails. -/
theorem Settles.coherent {engine : Engine ε M} {x : Session ε M α} (hx : engine.Settles x)
    {cache : PatternCache M} (h : engine.Coherent cache) : engine.Coherent (x.run cache).cache := by
  obtain ⟨r, hr⟩ := hx
  exact (hr cache h).2

theorem settles_planMatcher (engine : Engine ε M) (p : Plan) :
    engine.Settles (engine.planMatcher p) :=
  ⟨_, yields_planMatcher engine p⟩

theorem settles_prepare (engine : Engine ε M) (plans : List Plan) :
    engine.Settles (engine.prepare plans) := by
  induction plans with
  | nil => exact settles_pure engine ()
  | cons p ps ih => exact (settles_planMatcher engine p).bind fun _ => ih

theorem settles_earliest (engine : Engine ε M) (line : String) (start : Nat) (plans : List Plan) :
    ∀ best, engine.Settles (engine.earliest line start best plans) := by
  induction plans with
  | nil => exact fun best => settles_pure engine best
  | cons p ps ih =>
    intro best
    refine (settles_planMatcher engine p).bind fun m => ?_
    refine (settles_report engine _).bind fun _ => ?_
    split
    · exact ih best
    · split
      · split
        · exact settles_pure engine _
        · exact ih _
      · exact ih best

/-- Which plan is chosen does not depend on what is held. -/
theorem settles_choose (engine : Engine ε M) (plans : List Plan) (line : String) (start : Nat) :
    engine.Settles (engine.choose plans line start) :=
  (settles_prepare engine plans).bind fun _ => settles_earliest engine line start plans none

end Engine

end LineScopes
