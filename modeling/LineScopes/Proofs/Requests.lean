/-
Requests for matchers, one after the other.

The patterns of the grammar stay once they are compiled.  The resolved ones are dropped all
together, by a request that finds `resolvedLimit` of them and its own pattern not among
them, before that pattern is compiled.

* `Engine.outcome` — what comes of a request behind a history of others;
* `patterns_answer_written`, `patterns_answer_resolved` — all that a request does to the
  patterns that are held;
* `Engine.Drops` — a request loses resolved patterns, and `Engine.sinceDropped` — the
  requests since the last one that did;
* `Engine.Answers`, `Engine.Holds` — what a request comes to, and what is held behind
  requests;
* `cache_along_requests` — both, for every history that begins with nothing held.
-/
import LineScopes.Proofs.HeldPatterns
import Mathlib.Data.Finset.Card
import Mathlib.Data.List.Induction

namespace LineScopes

/-! ### Requests -/

/-- A request for the matcher of a pattern: one that the grammar has, or a resolved one. -/
inductive Request where
  | written (pattern : String)
  | resolved (pattern : String)

/-- The pattern whose matcher is wanted. -/
def Request.pattern : Request → String
  | .written pattern => pattern
  | .resolved pattern => pattern

namespace PatternCache

variable {M : Type}

/-- The patterns of the grammar that are held. -/
def writtenPatterns (c : PatternCache M) : List String := c.grammar.map Prod.fst

/-- The resolved patterns that are held. -/
def resolvedPatterns (c : PatternCache M) : List String := c.resolved.map Prod.fst

/-- The patterns among which a request looks for its own. -/
def patternsFor (c : PatternCache M) : Request → List String
  | .written _ => c.writtenPatterns
  | .resolved _ => c.resolvedPatterns

end PatternCache

/-- The pattern for which the event calls the engine, if it does. -/
def Event.compiling? : Event → Option String
  | .compiling pattern => some pattern
  | _ => none

theorem lookup_eq_none_iff_notMem {M : Type} {held : List (String × M)} {pattern : String} :
    held.lookup pattern = none ↔ pattern ∉ held.map Prod.fst := by
  rw [List.lookup_eq_none_iff, List.mem_map]
  constructor
  · rintro h ⟨entry, hentry, rfl⟩
    have hne := h entry hentry
    simp at hne
  · intro h entry hentry
    have hne : pattern ≠ entry.1 := fun heq => h ⟨entry, hentry, heq.symm⟩
    simpa using hne

theorem exists_lookup_of_mem {M : Type} {held : List (String × M)} {pattern : String}
    (h : pattern ∈ held.map Prod.fst) : ∃ m, held.lookup pattern = some m := by
  cases hlookup : held.lookup pattern with
  | none => exact absurd h (lookup_eq_none_iff_notMem.mp hlookup)
  | some m => exact ⟨m, rfl⟩

namespace Engine

variable {ε M : Type}

/-- The answer to a request. -/
def answer (engine : Engine ε M) : Request → Session ε M M
  | .written pattern => engine.matcher pattern
  | .resolved pattern => engine.resolvedMatcher pattern

/-- What is held after requests that were made one after the other, nothing being held at first. -/
def cacheBehind (engine : Engine ε M) (rs : List Request) : PatternCache M :=
  rs.foldl (fun cache r => ((engine.answer r).run cache).cache) .empty

/-- What comes of a request after others. -/
def outcome (engine : Engine ε M) (rs : List Request) (r : Request) : Outcome ε M M :=
  (engine.answer r).run (engine.cacheBehind rs)

theorem cacheBehind_concat (engine : Engine ε M) (rs : List Request) (r : Request) :
    engine.cacheBehind (rs ++ [r]) = (engine.outcome rs r).cache := by
  rw [cacheBehind, List.foldl_concat]
  rfl

/-! ### What a request does -/

theorem yields_answer (engine : Engine ε M) (r : Request) :
    engine.Yields (engine.answer r) (engine.compile r.pattern) := by
  cases r with
  | written pattern => exact engine.yields_matcher pattern
  | resolved pattern => exact engine.yields_resolvedMatcher pattern

theorem coherent_cacheBehind (engine : Engine ε M) (rs : List Request) :
    engine.Coherent (engine.cacheBehind rs) := by
  induction rs using List.reverseRecOn with
  | nil => exact engine.coherent_empty
  | append_singleton rs r ih =>
    rw [cacheBehind_concat]
    exact (engine.yields_answer r _ ih).2

/-- A pattern that is held is found, and nothing else happens. -/
theorem exists_run_answer_of_mem (engine : Engine ε M) {r : Request} {cache : PatternCache M}
    (h : r.pattern ∈ cache.patternsFor r) : ∃ m, (engine.answer r).run cache = ⟨.ok m, cache, []⟩ := by
  cases r with
  | written pattern =>
    obtain ⟨m, hm⟩ := exists_lookup_of_mem h
    exact ⟨m, engine.run_matcher_of_held hm⟩
  | resolved pattern =>
    obtain ⟨m, hm⟩ := exists_lookup_of_mem h
    exact ⟨m, engine.run_resolvedMatcher_of_held hm⟩

/-- The engine is called once, with the pattern wanted, if it is not held. -/
theorem compiling_answer (engine : Engine ε M) (r : Request) (cache : PatternCache M) :
    ((engine.answer r).run cache).events.filterMap Event.compiling? =
      if r.pattern ∈ cache.patternsFor r then [] else [r.pattern] := by
  by_cases h : r.pattern ∈ cache.patternsFor r
  · obtain ⟨m, hm⟩ := engine.exists_run_answer_of_mem h
    rw [if_pos h, hm]
    rfl
  · rw [if_neg h]
    cases r with
    | written pattern =>
      have habsent : cache.grammar.lookup pattern = none := lookup_eq_none_iff_notMem.mpr h
      rw [answer, run_matcher_of_absent engine habsent]
      rfl
    | resolved pattern =>
      have habsent : cache.resolved.lookup pattern = none := lookup_eq_none_iff_notMem.mpr h
      rw [answer, run_resolvedMatcher_of_absent engine habsent]
      dsimp only
      split <;> rfl

/-- The pattern, if it compiles, and nothing if it does not. -/
def admitted (engine : Engine ε M) (pattern : String) : List String :=
  match engine.compile pattern with
  | .ok _ => [pattern]
  | .error _ => []

theorem mem_admitted_iff {engine : Engine ε M} {p pattern : String} :
    p ∈ engine.admitted pattern ↔ p = pattern ∧ ∃ m, engine.compile pattern = .ok m := by
  unfold admitted
  split
  · next m hm => simp [hm]
  · next e he => simp [he]

/-- A request for a pattern of the grammar adds that pattern if it is new and compiles, and leaves
the resolved patterns alone. -/
theorem patterns_answer_written (engine : Engine ε M) (pattern : String) (cache : PatternCache M) :
    ((engine.answer (.written pattern)).run cache).cache.writtenPatterns =
        (if pattern ∈ cache.writtenPatterns then [] else engine.admitted pattern) ++
          cache.writtenPatterns ∧
      ((engine.answer (.written pattern)).run cache).cache.resolved = cache.resolved := by
  by_cases h : pattern ∈ cache.writtenPatterns
  · obtain ⟨m, hm⟩ := engine.exists_run_answer_of_mem (r := .written pattern) h
    rw [if_pos h, hm]
    exact ⟨rfl, rfl⟩
  · rw [if_neg h, answer, run_matcher_of_absent engine (lookup_eq_none_iff_notMem.mpr h)]
    unfold admitted
    cases engine.compile pattern with
    | ok m => exact ⟨rfl, rfl⟩
    | error e => exact ⟨rfl, rfl⟩

/-- A request for a resolved pattern that is new first drops all others if there are too many, and
then adds its pattern if that compiles.  It leaves the patterns of the grammar alone. -/
theorem patterns_answer_resolved (engine : Engine ε M) (pattern : String) (cache : PatternCache M) :
    ((engine.answer (.resolved pattern)).run cache).cache.resolvedPatterns =
        (if pattern ∈ cache.resolvedPatterns then cache.resolvedPatterns
          else engine.admitted pattern ++ (roomy cache).resolvedPatterns) ∧
      ((engine.answer (.resolved pattern)).run cache).cache.grammar = cache.grammar := by
  have hgrammar : (roomy cache).grammar = cache.grammar := by
    unfold roomy
    split <;> rfl
  by_cases h : pattern ∈ cache.resolvedPatterns
  · obtain ⟨m, hm⟩ := engine.exists_run_answer_of_mem (r := .resolved pattern) h
    rw [if_pos h, hm]
    exact ⟨rfl, rfl⟩
  · rw [if_neg h, answer, run_resolvedMatcher_of_absent engine (lookup_eq_none_iff_notMem.mpr h)]
    unfold admitted
    cases engine.compile pattern with
    | ok m => exact ⟨rfl, hgrammar⟩
    | error e => exact ⟨rfl, hgrammar⟩

theorem resolvedPatterns_roomy (cache : PatternCache M) :
    (roomy cache).resolvedPatterns =
      if resolvedLimit ≤ cache.resolvedPatterns.length then [] else cache.resolvedPatterns := by
  rw [roomy, PatternCache.resolvedPatterns, PatternCache.resolvedPatterns, List.length_map]
  split <;> rfl

theorem resolvedPatterns_roomy_eq (cache : PatternCache M) :
    (roomy cache).resolvedPatterns = [] ∨
      (roomy cache).resolvedPatterns = cache.resolvedPatterns := by
  rw [resolvedPatterns_roomy]
  split
  · exact .inl rfl
  · exact .inr rfl

theorem nodup_admitted_append {engine : Engine ε M} {pattern : String} {ps : List String}
    (hps : ps.Nodup) (h : pattern ∉ ps) : (engine.admitted pattern ++ ps).Nodup := by
  unfold admitted
  split
  · exact List.nodup_cons.mpr ⟨h, hps⟩
  · exact hps

theorem length_admitted_le (engine : Engine ε M) (pattern : String) :
    (engine.admitted pattern).length ≤ 1 := by
  unfold admitted
  split
  · exact Nat.le_refl 1
  · exact Nat.zero_le 1

/-! ### Patterns of the grammar -/

section Written

variable (engine : Engine ε M) {rs : List Request} {r : Request} {p : String}

theorem writtenPatterns_resolved (pattern : String) (cache : PatternCache M) :
    ((engine.answer (.resolved pattern)).run cache).cache.writtenPatterns =
      cache.writtenPatterns :=
  congrArg (List.map Prod.fst) (engine.patterns_answer_resolved pattern cache).2

theorem nodup_writtenPatterns (rs : List Request) :
    (engine.cacheBehind rs).writtenPatterns.Nodup := by
  induction rs using List.reverseRecOn with
  | nil => exact List.nodup_nil
  | append_singleton rs r ih =>
    rw [cacheBehind_concat, outcome]
    cases r with
    | resolved pattern => rwa [writtenPatterns_resolved]
    | written pattern =>
      rw [(engine.patterns_answer_written pattern _).1]
      split
      · exact ih
      · next h => exact nodup_admitted_append ih h

/-- The request is for a pattern of the grammar, and has it compiled. -/
def CompilesWritten (rs : List Request) (p : String) : Prop :=
  Event.compiled p true ∈ (engine.outcome rs (.written p)).events

theorem compilesWritten_iff : engine.CompilesWritten rs p ↔
    p ∉ (engine.cacheBehind rs).writtenPatterns ∧ ∃ m, engine.compile p = .ok m := by
  unfold CompilesWritten outcome
  by_cases h : p ∈ (engine.cacheBehind rs).writtenPatterns
  · obtain ⟨m, hm⟩ := engine.exists_run_answer_of_mem (r := .written p) h
    rw [hm]
    exact ⟨nofun, fun hp => absurd h hp.1⟩
  · rw [answer, run_matcher_of_absent engine (lookup_eq_none_iff_notMem.mpr h)]
    cases engine.compile p with
    | ok m => simp [h, Except.isOk, Except.toBool]
    | error e => simp [Except.isOk, Except.toBool]

theorem mem_writtenPatterns_concat_iff :
    p ∈ (engine.cacheBehind (rs ++ [r])).writtenPatterns ↔
      p ∈ (engine.cacheBehind rs).writtenPatterns ∨
        r = .written p ∧ engine.CompilesWritten rs p := by
  rw [cacheBehind_concat, outcome, compilesWritten_iff]
  cases r with
  | resolved pattern =>
    rw [writtenPatterns_resolved]
    simp
  | written pattern =>
    rw [(engine.patterns_answer_written pattern _).1, List.mem_append]
    by_cases h : pattern ∈ (engine.cacheBehind rs).writtenPatterns
    · rw [if_pos h]
      grind
    · rw [if_neg h, mem_admitted_iff]
      grind

/-- What is held of the grammar was compiled by some request. -/
theorem mem_writtenPatterns_iff (rs : List Request) :
    p ∈ (engine.cacheBehind rs).writtenPatterns ↔
      ∃ before, before ++ [.written p] <+: rs ∧ engine.CompilesWritten before p := by
  induction rs using List.reverseRecOn with
  | nil =>
    refine ⟨nofun, ?_⟩
    rintro ⟨before, hbegins, -⟩
    simp at hbegins
  | append_singleton rs r ih =>
    rw [mem_writtenPatterns_concat_iff, ih]
    constructor
    · rintro (⟨before, hbegins, hcompiles⟩ | ⟨rfl, hcompiles⟩)
      · exact ⟨before, hbegins.trans (List.prefix_append rs [r]), hcompiles⟩
      · exact ⟨rs, List.prefix_rfl, hcompiles⟩
    · rintro ⟨before, hbegins, hcompiles⟩
      rcases List.prefix_concat_iff.mp hbegins with heq | hbegins
      · obtain ⟨rfl, hr⟩ := List.append_inj' heq rfl
        exact .inr ⟨(List.cons.inj hr).1.symm, hcompiles⟩
      · exact .inl ⟨before, hbegins, hcompiles⟩

/-- A request that has a pattern of the grammar compiled is no longer in front of another one. -/
theorem not_compilesWritten_of_prefix {before later : List Request}
    (hbegins : before ++ [.written p] <+: later) (h : engine.CompilesWritten before p) :
    ¬ engine.CompilesWritten later p := by
  intro hlater
  exact ((engine.compilesWritten_iff).mp hlater).1
    ((engine.mem_writtenPatterns_iff later).mpr ⟨before, hbegins, h⟩)

theorem length_le_of_compilesWritten {before before' : List Request}
    (hbegins : before ++ [.written p] <+: rs) (hbegins' : before' ++ [.written p] <+: rs)
    (h : engine.CompilesWritten before p) (h' : engine.CompilesWritten before' p) :
    before'.length ≤ before.length := by
  by_contra hlt
  have hlength : (before ++ [Request.written p]).length ≤ before'.length := by
    rw [List.length_append, List.length_singleton]
    omega
  have hbefore : before' <+: rs := (List.prefix_append before' _).trans hbegins'
  exact engine.not_compilesWritten_of_prefix
    (List.prefix_of_prefix_length_le hbegins hbefore hlength) h h'

/-- Only one request has a pattern of the grammar compiled. -/
theorem eq_of_compilesWritten {before before' : List Request}
    (hbegins : before ++ [.written p] <+: rs) (hbegins' : before' ++ [.written p] <+: rs)
    (h : engine.CompilesWritten before p) (h' : engine.CompilesWritten before' p) :
    before = before' := by
  have hle := engine.length_le_of_compilesWritten hbegins' hbegins h' h
  have hge := engine.length_le_of_compilesWritten hbegins hbegins' h h'
  have hbefore := List.prefix_of_prefix_length_le ((List.prefix_append before _).trans hbegins)
    ((List.prefix_append before' _).trans hbegins') hle
  exact hbefore.eq_of_length (Nat.le_antisymm hle hge)

/-- What is held of the grammar is what was asked for of it and compiles. -/
theorem mem_writtenPatterns_iff_mem (rs : List Request) :
    p ∈ (engine.cacheBehind rs).writtenPatterns ↔
      .written p ∈ rs ∧ ∃ m, engine.compile p = .ok m := by
  rw [mem_writtenPatterns_iff]
  constructor
  · rintro ⟨before, hbegins, hcompiles⟩
    exact ⟨hbegins.subset (by simp), ((engine.compilesWritten_iff).mp hcompiles).2⟩
  · rintro ⟨hmem, hok⟩
    obtain ⟨before, after, rfl⟩ := List.append_of_mem hmem
    by_cases h : p ∈ (engine.cacheBehind before).writtenPatterns
    · -- Another request has had it compiled before.
      obtain ⟨earlier, hbegins, hcompiles⟩ := (engine.mem_writtenPatterns_iff before).mp h
      exact ⟨earlier, hbegins.trans (List.prefix_append _ _), hcompiles⟩
    · refine ⟨before, ?_, (engine.compilesWritten_iff).mpr ⟨h, hok⟩⟩
      exact List.prefix_append_right_inj before |>.mpr (by simp)

end Written

/-! ### Resolved patterns -/

/-- The request loses resolved patterns. -/
def Drops (engine : Engine ε M) (rs : List Request) (r : Request) : Prop :=
  ∃ p ∈ (engine.cacheBehind rs).resolvedPatterns,
    p ∉ (engine.outcome rs r).cache.resolvedPatterns

instance (engine : Engine ε M) (rs : List Request) (r : Request) : Decidable (engine.Drops rs r) :=
  inferInstanceAs (Decidable (∃ p ∈ _, p ∉ _))

/-- The requests since the last one that lost resolved patterns, from that one on. -/
def sinceDropped (engine : Engine ε M) (rs : List Request) : List Request :=
  (rs.foldl (fun s r => (s.1 ++ [r], if engine.Drops s.1 r then [r] else s.2 ++ [r])) ([], [])).2

theorem sinceDropped_concat (engine : Engine ε M) (rs : List Request) (r : Request) :
    engine.sinceDropped (rs ++ [r]) =
      if engine.Drops rs r then [r] else engine.sinceDropped rs ++ [r] := by
  have hhistory : ∀ rs : List Request, (rs.foldl (fun s r =>
      (s.1 ++ [r], if engine.Drops s.1 r then [r] else s.2 ++ [r])) ([], [])).1 = rs := by
    intro rs
    induction rs using List.reverseRecOn with
    | nil => rfl
    | append_singleton rs r ih => rw [List.foldl_concat, ih]
  rw [sinceDropped, List.foldl_concat, hhistory]
  rfl

section Resolved

variable (engine : Engine ε M) {rs : List Request} {r : Request} {p : String}

theorem resolvedPatterns_written (pattern : String) (cache : PatternCache M) :
    ((engine.answer (.written pattern)).run cache).cache.resolvedPatterns =
      cache.resolvedPatterns :=
  congrArg (List.map Prod.fst) (engine.patterns_answer_written pattern cache).2

theorem nodup_resolvedPatterns (rs : List Request) :
    (engine.cacheBehind rs).resolvedPatterns.Nodup := by
  induction rs using List.reverseRecOn with
  | nil => exact List.nodup_nil
  | append_singleton rs r ih =>
    rw [cacheBehind_concat, outcome]
    cases r with
    | written pattern => rwa [resolvedPatterns_written]
    | resolved pattern =>
      rw [(engine.patterns_answer_resolved pattern _).1]
      split
      · exact ih
      · next h =>
        rcases resolvedPatterns_roomy_eq (engine.cacheBehind rs) with hroomy | hroomy
        · rw [hroomy]
          exact nodup_admitted_append List.nodup_nil List.not_mem_nil
        · rw [hroomy]
          exact nodup_admitted_append ih h

theorem length_resolvedPatterns_le (rs : List Request) :
    (engine.cacheBehind rs).resolvedPatterns.length ≤ resolvedLimit := by
  induction rs using List.reverseRecOn with
  | nil => exact Nat.zero_le _
  | append_singleton rs r ih =>
    rw [cacheBehind_concat, outcome]
    cases r with
    | written pattern => rwa [resolvedPatterns_written]
    | resolved pattern =>
      rw [(engine.patterns_answer_resolved pattern _).1]
      split
      · exact ih
      · -- Either nothing is left in front of the new one, or there is room for one more.
        have hadmitted := engine.length_admitted_le pattern
        have hlimit : resolvedLimit = 64 := rfl
        rw [List.length_append, resolvedPatterns_roomy]
        split
        · rw [List.length_nil]
          omega
        · omega

/-- Resolved patterns are lost exactly where a new one is asked for and no more may be held. -/
theorem drops_iff : engine.Drops rs r ↔
    ∃ p, r = .resolved p ∧ p ∉ (engine.cacheBehind rs).resolvedPatterns ∧
      (engine.cacheBehind rs).resolvedPatterns.length = resolvedLimit := by
  unfold Drops outcome
  have hle := engine.length_resolvedPatterns_le rs
  generalize engine.cacheBehind rs = cache at hle ⊢
  cases r with
  | written pattern =>
    rw [resolvedPatterns_written]
    exact ⟨fun ⟨p, hp, hlost⟩ => absurd hp hlost, fun ⟨p, hp, _⟩ => nomatch hp⟩
  | resolved pattern =>
    rw [(engine.patterns_answer_resolved pattern cache).1, resolvedPatterns_roomy]
    constructor
    · rintro ⟨q, hq, hlost⟩
      by_cases hheld : pattern ∈ cache.resolvedPatterns
      · rw [if_pos hheld] at hlost
        exact absurd hq hlost
      · rw [if_neg hheld] at hlost
        by_cases hfull : resolvedLimit ≤ cache.resolvedPatterns.length
        · exact ⟨pattern, rfl, hheld, Nat.le_antisymm hle hfull⟩
        · rw [if_neg hfull] at hlost
          exact absurd (List.mem_append_right _ hq) hlost
    · rintro ⟨_, hr, hheld, hfull⟩
      obtain rfl := Request.resolved.inj hr
      rw [if_neg hheld, if_pos (Nat.le_of_eq hfull.symm), List.append_nil]
      -- Some pattern is held, and it is not the one asked for.
      obtain ⟨q, hq⟩ : ∃ q, q ∈ cache.resolvedPatterns :=
        List.exists_mem_of_length_pos (by rw [hfull]; decide)
      refine ⟨q, hq, fun hadmitted => hheld ?_⟩
      rwa [(mem_admitted_iff.mp hadmitted).1] at hq

/-- All of them are lost. -/
theorem resolvedPatterns_of_drops (h : engine.Drops rs r) :
    (engine.outcome rs r).cache.resolvedPatterns = engine.admitted r.pattern := by
  obtain ⟨p, rfl, hheld, hfull⟩ := (engine.drops_iff).mp h
  rw [outcome, (engine.patterns_answer_resolved p _).1, if_neg hheld, resolvedPatterns_roomy,
    if_pos (Nat.le_of_eq hfull.symm), List.append_nil]
  rfl

/-- Where none is lost, the one asked for joins them if it compiles. -/
theorem mem_resolvedPatterns_of_not_drops (h : ¬ engine.Drops rs r) :
    p ∈ (engine.outcome rs r).cache.resolvedPatterns ↔
      p ∈ (engine.cacheBehind rs).resolvedPatterns ∨
        r = .resolved p ∧ ∃ m, engine.compile p = .ok m := by
  rw [drops_iff] at h
  have hle := engine.length_resolvedPatterns_le rs
  unfold outcome
  generalize engine.cacheBehind rs = cache at h hle ⊢
  cases r with
  | written pattern =>
    rw [resolvedPatterns_written]
    simp
  | resolved pattern =>
    rw [(engine.patterns_answer_resolved pattern cache).1, Request.resolved.injEq]
    by_cases hheld : pattern ∈ cache.resolvedPatterns
    · rw [if_pos hheld]
      exact ⟨.inl, fun hp => hp.elim id fun hp => hp.1 ▸ hheld⟩
    · have hroom : ¬ resolvedLimit ≤ cache.resolvedPatterns.length :=
        fun hfull => h ⟨pattern, rfl, hheld, Nat.le_antisymm hle hfull⟩
      rw [if_neg hheld, resolvedPatterns_roomy, if_neg hroom, List.mem_append, mem_admitted_iff,
        or_comm, eq_comm]
      exact or_congr_right (and_congr_right fun heq => by rw [heq])

/-- What is held of the resolved patterns is what was asked for of them and compiles, since they
were last lost. -/
theorem mem_resolvedPatterns_iff (rs : List Request) :
    p ∈ (engine.cacheBehind rs).resolvedPatterns ↔
      .resolved p ∈ engine.sinceDropped rs ∧ ∃ m, engine.compile p = .ok m := by
  induction rs using List.reverseRecOn with
  | nil => exact ⟨nofun, fun h => nomatch h.1⟩
  | append_singleton rs r ih =>
    -- Behind a request that loses all, only its own pattern can be held.
    rw [cacheBehind_concat, sinceDropped_concat]
    by_cases hdrops : engine.Drops rs r
    · obtain ⟨q, rfl, -⟩ := (engine.drops_iff).mp hdrops
      rw [if_pos hdrops, engine.resolvedPatterns_of_drops hdrops, mem_admitted_iff,
        List.mem_singleton, Request.resolved.injEq]
      exact and_congr_right fun heq => by rw [heq]
    · rw [if_neg hdrops, engine.mem_resolvedPatterns_of_not_drops hdrops, ih, List.mem_append,
        List.mem_singleton, eq_comm (a := r), or_and_right]

end Resolved

/-! ### Histories -/

/-- What comes of a request after others. -/
structure Answers (engine : Engine ε M) (rs : List Request) (r : Request) : Prop where
  /-- The answer is what the engine makes of the pattern. -/
  result : (engine.outcome rs r).result = engine.compile r.pattern
  /-- The engine is called, with the pattern, if that is not held where the request looks for it,
  and not called otherwise. -/
  compiling : (engine.outcome rs r).events.filterMap Event.compiling? =
    if r.pattern ∈ (engine.cacheBehind rs).patternsFor r then [] else [r.pattern]
  /-- Resolved patterns are lost exactly to a new one that finds 64 of them. -/
  drops_iff : engine.Drops rs r ↔ ∃ p, r = .resolved p ∧
    p ∉ (engine.cacheBehind rs).resolvedPatterns ∧
    (engine.cacheBehind rs).resolvedPatterns.length = 64
  /-- Then all of them are. -/
  dropped : engine.Drops rs r →
    ∀ p ∈ (engine.outcome rs r).cache.resolvedPatterns, p = r.pattern
  /-- A pattern that is refused leaves what is held as it is, but for resolved patterns that are
  lost. -/
  refused : ∀ e, engine.compile r.pattern = .error e →
    (engine.outcome rs r).cache =
      if engine.Drops rs r then { engine.cacheBehind rs with resolved := [] }
      else engine.cacheBehind rs

/-- What is held after requests. -/
structure Holds (engine : Engine ε M) (rs : List Request) : Prop where
  written_nodup : (engine.cacheBehind rs).writtenPatterns.Nodup
  /-- A pattern of the grammar is held if it was asked for and compiles. -/
  mem_written_iff : ∀ p, p ∈ (engine.cacheBehind rs).writtenPatterns ↔
    .written p ∈ rs ∧ ∃ m, engine.compile p = .ok m
  /-- So it is if some request had it compiled. -/
  mem_written_iff_compiled : ∀ p, p ∈ (engine.cacheBehind rs).writtenPatterns ↔
    ∃ before, before ++ [.written p] <+: rs ∧ engine.CompilesWritten before p
  /-- No more than one request did. -/
  compiled_once : ∀ p before before', before ++ [.written p] <+: rs →
    before' ++ [.written p] <+: rs → engine.CompilesWritten before p →
    engine.CompilesWritten before' p → before = before'
  resolved_nodup : (engine.cacheBehind rs).resolvedPatterns.Nodup
  resolved_length_le : (engine.cacheBehind rs).resolvedPatterns.length ≤ 64
  /-- A resolved pattern is held if it was asked for since they were last lost, and compiles. -/
  mem_resolved_iff : ∀ p, p ∈ (engine.cacheBehind rs).resolvedPatterns ↔
    .resolved p ∈ engine.sinceDropped rs ∧ ∃ m, engine.compile p = .ok m
  size_eq : (engine.cacheBehind rs).size =
    (engine.cacheBehind rs).writtenPatterns.toFinset.card +
      (engine.cacheBehind rs).resolvedPatterns.toFinset.card

theorem cache_of_refused (engine : Engine ε M) {rs : List Request} {r : Request} {e : ε}
    (he : engine.compile r.pattern = .error e) :
    (engine.outcome rs r).cache =
      if engine.Drops rs r then { engine.cacheBehind rs with resolved := [] }
      else engine.cacheBehind rs := by
  have hcoherent := engine.coherent_cacheBehind rs
  have hle := engine.length_resolvedPatterns_le rs
  rw [PatternCache.resolvedPatterns, List.length_map] at hle
  cases r with
  | written pattern =>
    have hkept : ¬ engine.Drops rs (.written pattern) := fun h =>
      have ⟨_, hp, _⟩ := engine.drops_iff.mp h
      nomatch hp
    have habsent : (engine.cacheBehind rs).grammar.lookup pattern = none := by
      rw [Option.eq_none_iff_forall_ne_some]
      intro m hm
      cases he.symm.trans (hcoherent.grammar hm)
    have he : engine.compile pattern = .error e := he
    rw [if_neg hkept, outcome, answer, run_matcher_of_absent engine habsent, he]
  | resolved pattern =>
    have habsent : (engine.cacheBehind rs).resolved.lookup pattern = none := by
      rw [Option.eq_none_iff_forall_ne_some]
      intro m hm
      cases he.symm.trans (hcoherent.resolved hm)
    have he : engine.compile pattern = .error e := he
    have hdrops : engine.Drops rs (.resolved pattern) ↔
        resolvedLimit ≤ (engine.cacheBehind rs).resolved.length := by
      rw [drops_iff, PatternCache.resolvedPatterns, List.length_map]
      exact ⟨fun ⟨_, _, _, hfull⟩ => Nat.le_of_eq hfull.symm, fun hfull =>
        ⟨pattern, rfl, lookup_eq_none_iff_notMem.mp habsent, Nat.le_antisymm hle hfull⟩⟩
    rw [outcome, answer, run_resolvedMatcher_of_absent engine habsent, he]
    simp only [hdrops, roomy]

theorem answers (engine : Engine ε M) (rs : List Request) (r : Request) : engine.Answers rs r where
  result := (engine.yields_answer r _ (engine.coherent_cacheBehind rs)).1
  compiling := engine.compiling_answer r (engine.cacheBehind rs)
  drops_iff := engine.drops_iff
  dropped h p hp := by
    rw [engine.resolvedPatterns_of_drops h] at hp
    exact (mem_admitted_iff.mp hp).1
  refused e he := engine.cache_of_refused he

theorem holds (engine : Engine ε M) (rs : List Request) : engine.Holds rs where
  written_nodup := engine.nodup_writtenPatterns rs
  mem_written_iff _ := engine.mem_writtenPatterns_iff_mem rs
  mem_written_iff_compiled _ := engine.mem_writtenPatterns_iff rs
  compiled_once _ _ _ := engine.eq_of_compilesWritten
  resolved_nodup := engine.nodup_resolvedPatterns rs
  resolved_length_le := engine.length_resolvedPatterns_le rs
  mem_resolved_iff _ := engine.mem_resolvedPatterns_iff rs
  size_eq := by
    rw [List.toFinset_card_of_nodup (engine.nodup_writtenPatterns rs),
      List.toFinset_card_of_nodup (engine.nodup_resolvedPatterns rs), PatternCache.writtenPatterns,
      PatternCache.resolvedPatterns, List.length_map, List.length_map, PatternCache.size]

/-- After any requests, made one after the other and with nothing held at first, the next one has
its answer, and what is held is accounted for. -/
theorem cache_along_requests (engine : Engine ε M) (rs : List Request) :
    (∀ r, engine.Answers rs r) ∧ engine.Holds rs :=
  ⟨fun r => engine.answers rs r, engine.holds rs⟩

end Engine

end LineScopes
