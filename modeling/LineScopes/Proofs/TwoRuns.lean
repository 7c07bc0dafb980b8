/-
Two runs side by side.

Two tokenizers with the same engine go through a line together as long as they have the same
plans at the same byte.  What they hold does not matter, since both hold only what the engine
compiles.

* `Agree` — two results: the same error, or related values;
* `Engine.Alike` — two sessions agree on coherent caches and report the same applications, with
  `Alike.bind` to put such sessions together;
* `Tokenizer.Simulates` — a relation between places that makes both tokenizers do the same and
  is kept by what they do; `alike_line` and `alike_lines` lift it to lines.
-/
import LineScopes.Proofs.Reports
import Mathlib.Data.List.Forall2
import Mathlib.Data.Sum.Basic

namespace LineScopes

/-! ### Sessions that agree -/

/-- The results are the same error, or values that are related. -/
inductive Agree {ε α β : Type} (Q : α → β → Prop) : Except ε α → Except ε β → Prop
  | ok {a : α} {b : β} (h : Q a b) : Agree Q (.ok a) (.ok b)
  | error (e : ε) : Agree Q (.error e) (.error e)

theorem Agree.mono {ε α β : Type} {Q Q' : α → β → Prop} {r : Except ε α} {s : Except ε β}
    (h : Agree Q r s) (hQ : ∀ a b, Q a b → Q' a b) : Agree Q' r s := by
  cases h with
  | ok h => exact .ok (hQ _ _ h)
  | error e => exact .error e

/-- What agrees with a value is a value. -/
theorem Agree.exists_ok {ε α β : Type} {Q : α → β → Prop} {r : Except ε α} {s : Except ε β}
    (h : Agree Q r s) {a : α} (hr : r = .ok a) : ∃ b, s = .ok b ∧ Q a b := by
  subst hr
  cases h with
  | @ok _ b hab => exact ⟨b, rfl, hab⟩

theorem map_eq_map_of_forall₂ {α β γ : Type} {f : α → γ} {g : β → γ} {l : List α} {m : List β}
    (h : List.Forall₂ (fun a b => f a = g b) l m) : l.map f = m.map g := by
  rw [← List.forall₂_eq_eq_eq, List.forall₂_map_left_iff, List.forall₂_map_right_iff]
  exact h

/-- The matches that the events say were applied. -/
def applications (events : List Event) : List Event := events.filter Event.isApplying

@[simp] theorem applications_append (events events' : List Event) :
    applications (events ++ events') = applications events ++ applications events' :=
  List.filter_append ..

theorem applications_eq_nil {events : List Event} (h : ∀ e ∈ events, e.isApplying = false) :
    applications events = [] := by
  rw [applications, List.filter_eq_nil_iff]
  intro e he
  rw [h e he]
  exact Bool.false_ne_true

/-- Two outcomes agree: so do their results, and both report the same applications and leave a
coherent cache. -/
structure Engine.Agrees {ε M α β : Type} (engine : Engine ε M) (Q : α → β → Prop)
    (o : Outcome ε M α) (o' : Outcome ε M β) : Prop where
  result : Agree Q o.result o'.result
  coherent : engine.Coherent o.cache
  coherent' : engine.Coherent o'.cache
  applications : applications o.events = LineScopes.applications o'.events

/-- The sessions agree, whatever coherent caches they run on. -/
def Engine.Alike {ε M α β : Type} (engine : Engine ε M) (Q : α → β → Prop)
    (x : Session ε M α) (y : Session ε M β) : Prop :=
  ∀ cache cache', engine.Coherent cache → engine.Coherent cache' →
    engine.Agrees Q (x.run cache) (y.run cache')

namespace Engine

variable {ε M α β γ δ : Type} {engine : Engine ε M}

theorem alike_pure {Q : α → β → Prop} {a : α} {b : β} (h : Q a b) :
    engine.Alike Q (pure a) (pure b) :=
  fun _ _ hc hc' => ⟨.ok h, hc, hc', rfl⟩

theorem alike_report {events events' : List Event}
    (h : applications events = applications events') :
    engine.Alike (fun _ _ => True) (Session.report events) (Session.report events') :=
  fun _ _ hc hc' => ⟨.ok trivial, hc, hc', h⟩

theorem Alike.bind {Q : α → β → Prop} {Q' : γ → δ → Prop} {x : Session ε M α} {y : Session ε M β}
    {f : α → Session ε M γ} {g : β → Session ε M δ} (hx : engine.Alike Q x y)
    (hf : ∀ a b, Q a b → engine.Alike Q' (f a) (g b)) : engine.Alike Q' (x >>= f) (y >>= g) := by
  intro cache cache' hcache hcache'
  obtain ⟨hresult, hcoherent, hcoherent', happlied⟩ := hx cache cache' hcache hcache'
  rw [Session.run_bind, Session.run_bind]
  cases hr : (x.run cache).result with
  | error e =>
    cases hs : (y.run cache').result with
    | error e' =>
      rw [hr, hs] at hresult
      cases hresult
      exact ⟨.error e, hcoherent, hcoherent', happlied⟩
    | ok b =>
      rw [hr, hs] at hresult
      cases hresult
  | ok a =>
    cases hs : (y.run cache').result with
    | error e' =>
      rw [hr, hs] at hresult
      cases hresult
    | ok b =>
      rw [hr, hs] at hresult
      cases hresult with
      | ok hab =>
        -- The second parts run on what the first ones left, which is coherent again.
        obtain ⟨hrest, hleft, hleft', happlied'⟩ := hf a b hab _ _ hcoherent hcoherent'
        refine ⟨hrest, hleft, hleft', ?_⟩
        dsimp only
        rw [applications_append, applications_append, happlied, happlied']

theorem Alike.mono {Q Q' : α → β → Prop} {x : Session ε M α} {y : Session ε M β}
    (h : engine.Alike Q x y) (hQ : ∀ a b, Q a b → Q' a b) : engine.Alike Q' x y := by
  intro cache cache' hcache hcache'
  obtain ⟨hresult, hcoherent, hcoherent', happlied⟩ := h cache cache' hcache hcache'
  exact ⟨hresult.mono hQ, hcoherent, hcoherent', happlied⟩

/-- Choosing among the same plans comes to the same verdict, and applies nothing. -/
theorem alike_choose (hforward : engine.SearchesForward) (plans : List Plan) (line : String)
    (start : Nat) :
    engine.Alike (fun a b => a = b ∧ engine.verdict plans line start = .ok a)
      (engine.choose plans line start) (engine.choose plans line start) := by
  intro cache cache' hcache hcache'
  have hquiet : ∀ c, applications ((engine.choose plans line start).run c).events = [] := fun c =>
    applications_eq_nil fun e he =>
      Event.isApplying_of_isCall (engine.reports_choose plans line start c e he)
  obtain ⟨hresult, hcoherent⟩ := yields_choose hforward plans line start cache hcache
  obtain ⟨hresult', hcoherent'⟩ := yields_choose hforward plans line start cache' hcache'
  refine ⟨?_, hcoherent, hcoherent', (hquiet cache).trans (hquiet cache').symm⟩
  rw [hresult, hresult']
  cases engine.verdict plans line start with
  | ok choice => exact .ok ⟨rfl, rfl⟩
  | error e => exact .error e

end Engine

/-! ### Lines -/

/-- Both runs end alike, at related places. -/
inductive Ends (size : Nat) (R : Place → Place → Prop) : LineRun → LineRun → Prop
  | finish (ending : Ending) {p q : Place} (h : R p q) :
      Ends size R (Tokenizer.finish size ending p) (Tokenizer.finish size ending q)
  | repeated (c : Choice) {p q : Place} (h : R p q) :
      Ends size R (p.stopAt size c) (q.stopAt size c)

theorem applications_applyChoice (g : Grammar) (line : String) (c : Choice) (stack : StateStack) :
    applications (applyChoice g line c stack).events = [.applying c.kind c.rule c.found.span] := by
  unfold applyChoice
  split
  · rfl
  · next rule hrule =>
    have hrest : applications (applyRule rule line c stack).events = [] := by
      refine applications_eq_nil fun e he => ?_
      rw [eq_rootClosed_of_mem_applyRule he]
      rfl
    show Event.applying c.kind c.rule c.found.span :: applications _ = _
    rw [hrest]

namespace Tokenizer

variable {ε M : Type}

/-- At related places, the tokenizer and the one with the other grammar have the same plans and the
same record, and what is chosen leads to related places. -/
structure Simulates (t : Tokenizer ε M) (g : Grammar) (line : String) (R : Place → Place → Prop) :
    Prop where
  size : g.size = t.grammar.size
  pos : ∀ {p q}, R p q → p.pos = q.pos
  empties : ∀ {p q}, R p q → p.empties = q.empties
  plans : ∀ {p q}, R p q → t.grammar.plans p.stack = g.plans q.stack
  after : ∀ {p q c}, R p q → t.verdictAt line p = .ok (some c) → ¬ p.Repeats c →
    R (p.after t.grammar line c) (q.after g line c)

variable {t : Tokenizer ε M} {g : Grammar} {line : String} {R : Place → Place → Prop}

theorem applications_remarks (g : Grammar) (s : StateStack) : applications (g.remarks s) = [] :=
  applications_eq_nil fun _ he =>
    Event.isApplying_of_isRemark (Grammar.isRemark_of_mem_remarks he)

/-- At related places, a choice is reported alike and leads to related places, or ends both lines
alike. -/
theorem Simulates.next (h : t.Simulates g line R) {p q : Place} (hpq : R p q)
    {choice : Option Choice} (hchoice : t.verdictAt line p = .ok choice) :
    applications (p.noted t.grammar line choice) = applications (q.noted g line choice) ∧
      Sum.LiftRel R (Ends line.utf8ByteSize R) (p.next t.grammar line choice)
        (q.next g line choice) := by
  cases choice with
  | none => exact ⟨rfl, .inr (.finish .noMatch hpq)⟩
  | some c =>
    have hiff : p.Repeats c ↔ q.Repeats c := by
      rw [Place.Repeats, Place.Repeats, h.empties hpq]
    by_cases hr : p.Repeats c
    · simp only [Place.noted, Place.next, hr, hiff.mp hr, if_true]
      exact ⟨trivial, .inr (.repeated c hpq)⟩
    · have hr' : ¬ q.Repeats c := fun h' => hr (hiff.mpr h')
      simp only [Place.noted, Place.next, hr, hr', if_false, applications_applyChoice]
      exact ⟨trivial, .inl (h.after hpq hchoice hr)⟩

/-- So do two turns. -/
theorem Simulates.alike_turn (h : t.Simulates g line R) (hforward : t.engine.SearchesForward)
    {p q : Place} (hpq : R p q) :
    t.engine.Alike (Sum.LiftRel R (Ends line.utf8ByteSize R)) (t.turn line p)
      ({ t with grammar := g }.turn line q) := by
  rw [turn_eq, turn_eq]
  refine (Engine.alike_report ?_).bind fun _ _ _ => ?_
  · rw [applications_remarks, applications_remarks]
  · dsimp only
    rw [← h.plans hpq, ← h.pos hpq]
    refine (Engine.alike_choose hforward _ line p.pos).bind ?_
    rintro choice _ ⟨rfl, hchoice⟩
    obtain ⟨hnoted, hnext⟩ := h.next hpq hchoice
    exact (Engine.alike_report hnoted).bind fun _ _ _ => Engine.alike_pure hnext

theorem Simulates.alike_takeTurns (h : t.Simulates g line R)
    (hforward : t.engine.SearchesForward) (n : Nat) :
    ∀ {p q : Place}, R p q →
      t.engine.Alike (Ends line.utf8ByteSize R) (t.takeTurns line n p)
        ({ t with grammar := g }.takeTurns line n q) := by
  induction n with
  | zero => exact fun hpq => Engine.alike_pure (.finish .astray hpq)
  | succ n ih =>
    intro p q hpq
    refine (h.alike_turn hforward hpq).bind fun a b hab => ?_
    cases hab with
    | inl hnext => exact ih hnext
    | inr hend => exact Engine.alike_pure hend

/-- Two lines that begin at related places end alike. -/
theorem Simulates.alike_line (h : t.Simulates g line R) (hforward : t.engine.SearchesForward)
    {s s' : StateStack} (hfirst : R (.first s) (.first s')) :
    t.engine.Alike (Ends line.utf8ByteSize R) (t.line line s)
      ({ t with grammar := g }.line line s') := by
  unfold Tokenizer.line
  dsimp only
  split
  · exact (Engine.alike_report rfl).bind fun _ _ _ => Engine.alike_pure (.finish .tooLong hfirst)
  · have hturns : turnLimit g line.utf8ByteSize = turnLimit t.grammar line.utf8ByteSize := by
      rw [turnLimit, turnLimit, h.size]
    rw [hturns]
    exact h.alike_takeTurns hforward _ hfirst

/-- Consecutive lines of two tokenizers agree if each line does, and leaves stacks that are related
as those at its beginning were. -/
theorem alike_lines {u : Tokenizer ε M} {S : StateStack → StateStack → Prop}
    {Q : LineRun → LineRun → Prop}
    (hline : ∀ {line s s'}, S s s' →
      t.engine.Alike (fun run run' => Q run run' ∧ S run.stack run'.stack) (t.line line s)
        (u.line line s'))
    (lines : List String) :
    ∀ {s s' : StateStack}, S s s' →
      t.engine.Alike (fun r r' => List.Forall₂ Q r.1 r'.1 ∧ S r.2 r'.2) (t.lines lines s)
        (u.lines lines s') := by
  induction lines with
  | nil => exact fun hs => Engine.alike_pure ⟨.nil, hs⟩
  | cons l ls ih =>
    intro s s' hs
    refine (hline hs).bind fun run run' hrun => ?_
    refine (ih hrun.2).bind fun r r' hr => ?_
    exact Engine.alike_pure ⟨.cons hrun.1 hr.1, hr.2⟩

end Tokenizer

end LineScopes
