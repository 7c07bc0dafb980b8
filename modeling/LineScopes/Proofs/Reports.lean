/-
What is reported.

* `Session.Reports` — all events of a session are of some kind, whatever is held;
* `Engine.reports_prepare` — compiling the patterns of plans reports no search;
* `Engine.reports_choose` — choosing a plan reports calls to the engine only;
* `Grammar.isRemark_of_mem_remarks` — collecting plans reports what is odd about the
  grammar only;
* `countP_events_turn` — so a turn reports one application if it applies a match, and
  none otherwise.
-/
import LineScopes.Proofs.Course

namespace LineScopes

/-! ### Kinds of events -/

namespace Event

/-- A pattern is compiled because its matcher is asked for, or patterns are dropped for that. -/
def isLookup : Event → Bool
  | .compiling _ | .compiled _ _ | .droppingResolved _ => true
  | _ => false

/-- A call to the engine, or that patterns are dropped for one. -/
def isCall : Event → Bool
  | .compiling _ | .compiled _ _ | .searched _ _ _ | .droppingResolved _ => true
  | _ => false

/-- Something odd about the grammar, met while plans are collected. -/
def isRemark : Event → Bool
  | .openRuleMissing _ | .listedRuleMissing _ | .referenceRepeated _ | .containerRepeated _ => true
  | _ => false

/-- The application of a match. -/
def isApplying : Event → Bool
  | .applying _ _ _ => true
  | _ => false

theorem isCall_of_isLookup {e : Event} (h : e.isLookup) : e.isCall := by
  cases e <;> first | rfl | cases h

theorem isApplying_of_isCall {e : Event} (h : e.isCall) : e.isApplying = false := by
  cases e <;> first | rfl | cases h

theorem isApplying_of_isRemark {e : Event} (h : e.isRemark) : e.isApplying = false := by
  cases e <;> first | rfl | cases h

end Event

/-! ### Reports of a session -/

/-- All events of the session are of the kind `P`, whatever is held. -/
def Session.Reports {ε M α : Type} (P : Event → Prop) (x : Session ε M α) : Prop :=
  ∀ cache, ∀ e ∈ (x.run cache).events, P e

namespace Session

variable {ε M α β : Type} {P : Event → Prop}

theorem reports_pure (P : Event → Prop) (a : α) : Reports P (pure a : Session ε M α) := by
  intro cache e he
  cases he

theorem reports_report {events : List Event} (h : ∀ e ∈ events, P e) :
    Reports P (report events : Session ε M Unit) :=
  fun _ => h

theorem Reports.mono {Q : Event → Prop} {x : Session ε M α} (h : Reports P x)
    (hPQ : ∀ e, P e → Q e) : Reports Q x :=
  fun cache e he => hPQ e (h cache e he)

theorem Reports.bind {x : Session ε M α} {f : α → Session ε M β} (hx : Reports P x)
    (hf : ∀ a, Reports P (f a)) : Reports P (x >>= f) := by
  intro cache e he
  cases hr : (x.run cache).result with
  | ok a =>
    rw [run_bind_of_ok hr] at he
    rcases List.mem_append.mp he with he | he
    · exact hx cache e he
    · exact hf a _ e he
  | error err =>
    rw [run_bind_of_error hr] at he
    exact hx cache e he

end Session

namespace Engine

variable {ε M : Type}

theorem reports_matcher (engine : Engine ε M) (pattern : String) :
    (engine.matcher pattern).Reports fun e => e.isLookup := by
  intro cache e he
  cases hl : cache.grammar.lookup pattern with
  | some m =>
    rw [run_matcher_of_held engine hl] at he
    cases he
  | none =>
    rw [run_matcher_of_absent engine hl] at he
    simp only [List.mem_cons, List.not_mem_nil, or_false] at he
    rcases he with rfl | rfl <;> rfl

theorem reports_resolvedMatcher (engine : Engine ε M) (pattern : String) :
    (engine.resolvedMatcher pattern).Reports fun e => e.isLookup := by
  intro cache e he
  cases hl : cache.resolved.lookup pattern with
  | some m =>
    rw [run_resolvedMatcher_of_held engine hl] at he
    cases he
  | none =>
    rw [run_resolvedMatcher_of_absent engine hl] at he
    rcases List.mem_append.mp he with he | he
    · split at he
      · obtain rfl := List.mem_singleton.mp he
        rfl
      · cases he
    · simp only [List.mem_cons, List.not_mem_nil, or_false] at he
      rcases he with rfl | rfl <;> rfl

theorem reports_planMatcher (engine : Engine ε M) (p : Plan) :
    (engine.planMatcher p).Reports fun e => e.isLookup := by
  rw [planMatcher]
  split
  · exact engine.reports_resolvedMatcher p.pattern
  · exact engine.reports_matcher p.pattern

theorem reports_prepare (engine : Engine ε M) (plans : List Plan) :
    (engine.prepare plans).Reports fun e => e.isLookup := by
  induction plans with
  | nil => exact Session.reports_pure _ ()
  | cons p ps ih => exact (engine.reports_planMatcher p).bind fun _ => ih

theorem reports_earliest (engine : Engine ε M) (line : String) (start : Nat) (plans : List Plan) :
    ∀ best, (engine.earliest line start best plans).Reports fun e => e.isCall := by
  induction plans with
  | nil => exact fun best => Session.reports_pure _ best
  | cons p ps ih =>
    intro best
    refine ((engine.reports_planMatcher p).mono fun _ => Event.isCall_of_isLookup).bind fun m => ?_
    refine (Session.reports_report fun e he => ?_).bind fun _ => ?_
    · obtain rfl := List.mem_singleton.mp he
      rfl
    · split
      · exact ih best
      · split
        · split
          · exact Session.reports_pure _ _
          · exact ih _
        · exact ih best

/-- Choosing a plan reports calls to the engine only. -/
theorem reports_choose (engine : Engine ε M) (plans : List Plan) (line : String) (start : Nat) :
    (engine.choose plans line start).Reports fun e => e.isCall :=
  ((engine.reports_prepare plans).mono fun _ => Event.isCall_of_isLookup).bind fun _ =>
    engine.reports_earliest line start plans none

end Engine

/-! ### Remarks -/

namespace Grammar

theorem isRemark_of_mem_expand {g : Grammar} {expanded work : List RuleId} {e : Event} :
    .remark e ∈ g.expand expanded work → e.isRemark := by
  -- What is put in front is a plan, or a remark of the case at hand.
  have hcons : ∀ {e' : Event} {fs : List Finding}, e'.isRemark → (.remark e ∈ fs → e.isRemark) →
      .remark e ∈ .remark e' :: fs → e.isRemark := by
    intro e' fs he' ih h
    rcases List.mem_cons.mp h with h | h
    · rwa [Finding.remark.inj h]
    · exact ih h
  have hskip : ∀ {p : Plan} {fs : List Finding}, (.remark e ∈ fs → e.isRemark) →
      .remark e ∈ .plan p :: fs → e.isRemark := by
    intro p fs ih h
    exact ih ((List.mem_cons.mp h).resolve_left nofun)
  fun_induction g.expand expanded work with
  | case1 => exact nofun
  | case2 expanded id rest hrule ih => exact hcons rfl ih
  | case3 expanded id rest rule hrule pattern captures hkind ih => exact hskip ih
  | case4 expanded id rest rule hrule d hkind ih => exact hskip ih
  | case5 expanded id rest rule hrule target hkind hid ih => exact hcons rfl ih
  | case6 expanded id rest rule hrule target hkind hid hlt ih => exact ih
  | case7 expanded id rest rule hrule hkind hid ih => exact hcons rfl ih
  | case8 expanded id rest rule hrule hkind hid hlt ih => exact ih

/-- Collecting plans reports what is odd about the grammar only. -/
theorem isRemark_of_mem_remarks {g : Grammar} {s : StateStack} {e : Event}
    (h : e ∈ g.remarks s) : e.isRemark := by
  obtain ⟨finding, hfinding, he⟩ := List.mem_filterMap.mp h
  obtain rfl : finding = .remark e := by
    cases finding with
    | plan p => cases he
    | remark e' => rw [Option.some.inj he]
  unfold collect at hfinding
  split at hfinding
  · obtain rfl := Finding.remark.inj (List.mem_singleton.mp hfinding)
    rfl
  · rcases List.mem_append.mp hfinding with hclosing | hexpand
    · unfold closingPlan at hclosing
      split at hclosing
      · cases hclosing
      · split at hclosing <;> cases List.mem_singleton.mp hclosing
    · exact isRemark_of_mem_expand hexpand

end Grammar

/-! ### Applications -/

theorem countP_isApplying_eq_zero {events : List Event} {P : Event → Prop}
    (hevents : ∀ e ∈ events, P e) (hP : ∀ {e}, P e → e.isApplying = false) :
    events.countP Event.isApplying = 0 := by
  rw [List.countP_eq_zero]
  intro e he
  rw [hP (hevents e he)]
  exact Bool.false_ne_true

/-- Besides that a match is applied, only the closing of the root is reported. -/
theorem eq_rootClosed_of_mem_applyRule {rule : Rule} {line : String} {c : Choice}
    {stack : StateStack} {e : Event} (h : e ∈ (applyRule rule line c stack).events) :
    e = .rootClosed := by
  unfold applyRule at h
  split at h
  · cases h
  · dsimp only at h
    split at h <;> cases h
  · dsimp only at h
    have hmem : e ∈ if stack.popped?.isNone then [Event.rootClosed] else [] := by
      split at h <;> exact h
    split at hmem
    · exact List.mem_singleton.mp hmem
    · cases hmem

/-- Applying a choice is reported once, whatever else is. -/
theorem countP_events_applyChoice (g : Grammar) (line : String) (c : Choice) (stack : StateStack) :
    (applyChoice g line c stack).events.countP Event.isApplying = 1 := by
  unfold applyChoice
  split
  · rfl
  · next rule hrule =>
    have hrest : (applyRule rule line c stack).events.countP Event.isApplying = 0 :=
      countP_isApplying_eq_zero (fun _ => eq_rootClosed_of_mem_applyRule) fun he => he ▸ rfl
    show (Event.applying _ _ _ :: _).countP _ = 1
    rw [List.countP_cons_of_pos rfl, hrest]

namespace Tokenizer

variable {ε M : Type}

/-- A turn reports one application if it goes on behind a match, and none if the line ends or an
error ends it. -/
theorem countP_events_turn (t : Tokenizer ε M) (line : String) (p : Place)
    (cache : PatternCache M) :
    ((t.turn line p).run cache).events.countP Event.isApplying =
      match ((t.turn line p).run cache).result with
      | .ok (.inl _) => 1
      | _ => 0 := by
  have hremarks : (t.grammar.remarks p.stack).countP Event.isApplying = 0 :=
    countP_isApplying_eq_zero (fun _ => Grammar.isRemark_of_mem_remarks)
      Event.isApplying_of_isRemark
  have hchoose := countP_isApplying_eq_zero
    (t.engine.reports_choose (t.grammar.plans p.stack) line p.pos cache) Event.isApplying_of_isCall
  rw [run_turn]
  dsimp only
  rw [List.countP_append, List.countP_append, hremarks, hchoose, Nat.zero_add, Nat.zero_add]
  cases ((t.engine.choose (t.grammar.plans p.stack) line p.pos).run cache).result with
  | error e => rfl
  | ok choice =>
    cases choice with
    | none => rfl
    | some c =>
      by_cases hr : p.Repeats c
      · simp [Place.noted, Place.next, hr, Except.map, Event.isApplying]
      · simp [Place.noted, Place.next, hr, Except.map, countP_events_applyChoice]

end Tokenizer

end LineScopes
