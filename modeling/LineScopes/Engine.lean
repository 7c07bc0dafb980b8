/-
Pattern engines.

An engine compiles the text of a pattern to a matcher or refuses it, and searches a
line with a matcher from a byte on.  Everything above works for any engine: `ε` is
the type of its errors, `M` that of its matchers.

* `Engine` — the two operations;
* `Session` — a computation that uses an engine: it has the compiled patterns at
  hand, reports events, and may fail with an error of the engine.

Design notes: `compile` and `search` are taken as functions of their arguments alone, so
that an engine has no state between calls.  After an error of a session, the patterns
compiled so far and the events stay.
-/
import LineScopes.Event
import LineScopes.Match

namespace LineScopes

/-- Compiles patterns and searches for them. -/
structure Engine (ε M : Type) where
  compile : String → Except ε M
  /-- The match of a matcher in a line that begins at a byte or after it. -/
  search : M → String → Nat → Option Match

/-! ### Compiled patterns -/

/-- Compiled patterns by their text: those of the grammar, and the resolved ones, which depend on
the text of the document. -/
structure PatternCache (M : Type) where
  grammar : List (String × M)
  resolved : List (String × M)

namespace PatternCache

variable {M : Type}

/-- No patterns. -/
def empty : PatternCache M := ⟨[], []⟩

/-- The number of patterns held. -/
def size (c : PatternCache M) : Nat := c.grammar.length + c.resolved.length

/-- Whether no pattern is held. -/
def isEmpty (c : PatternCache M) : Bool := c.grammar.isEmpty && c.resolved.isEmpty

end PatternCache

/-! ### Sessions -/

/-- What a session comes to: a value or an error, the patterns then held, and the events. -/
@[ext]
structure Outcome (ε M α : Type) where
  result : Except ε α
  cache : PatternCache M
  events : List Event

/-- A computation that uses compiled patterns. -/
def Session (ε M α : Type) : Type := PatternCache M → Outcome ε M α

namespace Session

variable {ε M α β : Type}

/-- Runs a session on the patterns held. -/
def run (x : Session ε M α) (cache : PatternCache M) : Outcome ε M α := x cache

instance : Monad (Session ε M) where
  pure a := fun cache => ⟨.ok a, cache, []⟩
  bind x f := fun cache =>
    let before := x cache
    match before.result with
    | .ok a =>
      let after := f a before.cache
      ⟨after.result, after.cache, before.events ++ after.events⟩
    | .error e => ⟨.error e, before.cache, before.events⟩

/-- Reports events. -/
def report (events : List Event) : Session ε M Unit := fun cache => ⟨.ok (), cache, events⟩

/-- Fails with an error. -/
def fail (e : ε) : Session ε M α := fun cache => ⟨.error e, cache, []⟩

/-- The patterns held. -/
def held : Session ε M (PatternCache M) := fun cache => ⟨.ok cache, cache, []⟩

/-- Replaces the patterns held. -/
def hold (cache : PatternCache M) : Session ε M Unit := fun _ => ⟨.ok (), cache, []⟩

/-! ### Running sessions -/

@[simp] theorem run_pure (a : α) (cache : PatternCache M) :
    (pure a : Session ε M α).run cache = ⟨.ok a, cache, []⟩ := rfl

@[simp] theorem run_report (events : List Event) (cache : PatternCache M) :
    (report events : Session ε M Unit).run cache = ⟨.ok (), cache, events⟩ := rfl

@[simp] theorem run_fail (e : ε) (cache : PatternCache M) :
    (fail e : Session ε M α).run cache = ⟨.error e, cache, []⟩ := rfl

@[simp] theorem run_held (cache : PatternCache M) :
    (held : Session ε M (PatternCache M)).run cache = ⟨.ok cache, cache, []⟩ := rfl

@[simp] theorem run_hold (cache new : PatternCache M) :
    (hold new : Session ε M Unit).run cache = ⟨.ok (), new, []⟩ := rfl

/-- What follows a session that comes to a value goes on from the patterns then held. -/
theorem run_bind_of_ok {x : Session ε M α} {cache : PatternCache M} {a : α}
    (h : (x.run cache).result = .ok a) (f : α → Session ε M β) :
    (x >>= f).run cache =
      { (f a).run (x.run cache).cache with
        events := (x.run cache).events ++ ((f a).run (x.run cache).cache).events } := by
  simp only [run] at h
  simp only [run, bind, h]

/-- Nothing follows a session that fails. -/
theorem run_bind_of_error {x : Session ε M α} {cache : PatternCache M} {e : ε}
    (h : (x.run cache).result = .error e) (f : α → Session ε M β) :
    (x >>= f).run cache = ⟨.error e, (x.run cache).cache, (x.run cache).events⟩ := by
  simp only [run] at h
  simp only [run, bind, h]

/-- Sessions that run alike are equal. -/
theorem ext {x y : Session ε M α} (h : ∀ cache, x.run cache = y.run cache) : x = y := funext h

instance : LawfulMonad (Session ε M) := by
  refine LawfulMonad.mk' _ (fun x => ext fun cache => ?_) (fun a f => ext fun cache => ?_)
    (fun x f g => ext fun cache => ?_)
  · cases h : (x.run cache).result with
    | ok a =>
      show (x >>= fun a => pure (id a)).run cache = _
      rw [run_bind_of_ok h]
      apply Outcome.ext <;> simp [h]
    | error e =>
      show (x >>= fun a => pure (id a)).run cache = _
      rw [run_bind_of_error h, ← h]
  · rw [run_bind_of_ok (a := a) rfl]
    simp
  · cases h : (x.run cache).result with
    | error e =>
      have hf : ((x >>= f).run cache).result = .error e := by rw [run_bind_of_error h]
      rw [run_bind_of_error hf, run_bind_of_error h, run_bind_of_error h]
    | ok a =>
      have hf := run_bind_of_ok h f
      rw [run_bind_of_ok h]
      cases h' : ((f a).run (x.run cache).cache).result with
      | ok b =>
        rw [run_bind_of_ok (a := b) (by rw [hf]; exact h'), run_bind_of_ok h', hf]
        simp [List.append_assoc]
      | error e =>
        rw [run_bind_of_error (e := e) (by rw [hf]; exact h'), run_bind_of_error h', hf]

end Session

end LineScopes
