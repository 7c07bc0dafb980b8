/-
What was tokenized before makes no difference.

A tokenizer holds the patterns it compiled, and what it holds depends on all lines it
was given, also on those that failed.  Its answers do not.

* `Tokenizer.cacheAfter` — what a tokenizer holds after a history of calls;
* `coherent_cacheAfter` — all of it is what the engine compiles now;
* `results_after_history` — every call answers as if it were the first, and consecutive
  lines as if each had a tokenizer of its own.
-/
import LineScopes.Proofs.HeldPatterns
import LineScopes.Tokenizer

namespace LineScopes

/-- A call of a tokenizer: for one line, or for consecutive lines. -/
inductive Call where
  | line (line : String) (stack : StateStack)
  | lines (lines : List String) (stack : StateStack)

namespace Tokenizer

variable {ε M : Type}

/-! ### Histories -/

/-- What is held after a call, whether or not it failed. -/
def cacheAfterCall (t : Tokenizer ε M) (cache : PatternCache M) : Call → PatternCache M
  | .line line stack => ((t.line line stack).run cache).cache
  | .lines lines stack => ((t.lines lines stack).run cache).cache

/-- What is held after calls that were made one after the other, nothing being held at first. -/
def cacheAfter (t : Tokenizer ε M) (calls : List Call) : PatternCache M :=
  calls.foldl t.cacheAfterCall .empty

/-! ### Tokenizing settles -/

theorem settles_turn (t : Tokenizer ε M) (line : String) (p : Place) :
    t.engine.Settles (t.turn line p) := by
  refine (t.engine.settles_report _).bind fun _ => ?_
  refine (t.engine.settles_choose _ line p.pos).bind fun choice => ?_
  cases choice with
  | none => exact t.engine.settles_pure _
  | some c =>
    dsimp only
    split
    · exact (t.engine.settles_report _).bind fun _ => t.engine.settles_pure _
    · exact (t.engine.settles_report _).bind fun _ => t.engine.settles_pure _

theorem settles_takeTurns (t : Tokenizer ε M) (line : String) (n : Nat) :
    ∀ p, t.engine.Settles (t.takeTurns line n p) := by
  induction n with
  | zero => exact fun p => t.engine.settles_pure _
  | succ n ih =>
    intro p
    refine (t.settles_turn line p).bind fun r => ?_
    cases r with
    | inl q => exact ih q
    | inr run => exact t.engine.settles_pure run

theorem settles_line (t : Tokenizer ε M) (line : String) (stack : StateStack) :
    t.engine.Settles (t.line line stack) := by
  unfold Tokenizer.line
  dsimp only
  split
  · exact (t.engine.settles_report _).bind fun _ => t.engine.settles_pure _
  · exact t.settles_takeTurns line _ _

theorem settles_lines (t : Tokenizer ε M) (lines : List String) :
    ∀ stack, t.engine.Settles (t.lines lines stack) := by
  induction lines with
  | nil => exact fun stack => t.engine.settles_pure _
  | cons l ls ih =>
    intro stack
    refine (t.settles_line l stack).bind fun run => ?_
    exact (ih run.stack).bind fun r => t.engine.settles_pure _

/-- Whatever was tokenized, all patterns held are held with what the engine compiles them to. -/
theorem coherent_cacheAfter (t : Tokenizer ε M) (calls : List Call) :
    t.engine.Coherent (t.cacheAfter calls) := by
  have hcall : ∀ cache, t.engine.Coherent cache →
      ∀ c, t.engine.Coherent (t.cacheAfterCall cache c) := by
    intro cache hcache c
    cases c with
    | line line stack => exact (t.settles_line line stack).coherent hcache
    | lines lines stack => exact (t.settles_lines lines stack).coherent hcache
  have hcalls : ∀ cache, t.engine.Coherent cache →
      t.engine.Coherent (calls.foldl t.cacheAfterCall cache) := by
    induction calls with
    | nil => exact fun cache hcache => hcache
    | cons c cs ih => exact fun cache hcache => ih _ (hcall cache hcache c)
  exact hcalls .empty t.engine.coherent_empty

/-! ### Answers -/

/-- The answer of a tokenizer that holds nothing yet. -/
def fresh (t : Tokenizer ε M) (line : String) (stack : StateStack) : Except ε LineRun :=
  ((t.line line stack).run .empty).result

/-- One more line, put behind the runs so far, with a tokenizer that holds nothing yet. -/
def freshStep (t : Tokenizer ε M) (sofar : List LineRun × StateStack) (line : String) :
    Except ε (List LineRun × StateStack) := do
  let run ← t.fresh line sofar.2
  pure (sofar.1 ++ [run], run.stack)

theorem yields_line (t : Tokenizer ε M) (line : String) (stack : StateStack) :
    t.engine.Yields (t.line line stack) (t.fresh line stack) := by
  obtain ⟨r, hr⟩ := t.settles_line line stack
  rwa [fresh, (hr .empty t.engine.coherent_empty).1]

/-- Consecutive lines come to the fold of fresh answers, with the runs so far in front. -/
theorem foldlM_freshStep (t : Tokenizer ε M) (lines : List String) :
    ∀ {cache}, t.engine.Coherent cache → ∀ (runs : List LineRun) (stack : StateStack),
      lines.foldlM t.freshStep (runs, stack) =
        (((t.lines lines stack).run cache).result).map fun r => (runs ++ r.1, r.2) := by
  induction lines with
  | nil =>
    intro cache _ runs stack
    show Except.ok (runs, stack) = Except.ok (runs ++ [], stack)
    rw [List.append_nil]
  | cons l ls ih =>
    intro cache hcache runs stack
    obtain ⟨hresult, hcoherent⟩ := t.yields_line l stack cache hcache
    rw [List.foldlM_cons, Tokenizer.lines]
    cases hfresh : t.fresh l stack with
    | error e =>
      rw [Session.result_bind_of_error (hresult.trans hfresh)]
      simp only [freshStep, hfresh]
      rfl
    | ok run =>
      rw [Session.result_bind_of_ok (hresult.trans hfresh)]
      -- The fold has one more run in front of it when it goes on.
      have hstep : t.freshStep (runs, stack) l = .ok (runs ++ [run], run.stack) := by
        simp only [freshStep, hfresh]
        rfl
      rw [hstep]
      show ls.foldlM t.freshStep (runs ++ [run], run.stack) = _
      rw [ih hcoherent (runs ++ [run]) run.stack]
      cases hrest : ((t.lines ls run.stack).run ((t.line l stack).run cache).cache).result with
      | error e =>
        rw [Session.result_bind_of_error hrest]
        rfl
      | ok r =>
        rw [Session.result_bind_of_ok hrest]
        show Except.ok (runs ++ [run] ++ r.1, r.2) = Except.ok (runs ++ run :: r.1, r.2)
        rw [List.append_assoc, List.singleton_append]

/-- After any history of calls, of which some may have failed and some may have made the tokenizer
drop what it held, a line has the answer of a fresh tokenizer, and consecutive lines have the
answers of fresh tokenizers, each beginning where the line before it ended, up to the first one
that fails. -/
theorem results_after_history (t : Tokenizer ε M) (calls : List Call) :
    (∀ (line : String) (stack : StateStack),
      ((t.line line stack).run (t.cacheAfter calls)).result = t.fresh line stack) ∧
    ∀ (lines : List String) (stack : StateStack),
      ((t.lines lines stack).run (t.cacheAfter calls)).result =
        lines.foldlM t.freshStep ([], stack) := by
  have hcoherent := t.coherent_cacheAfter calls
  refine ⟨fun line stack => (t.yields_line line stack _ hcoherent).1, fun lines stack => ?_⟩
  rw [t.foldlM_freshStep lines hcoherent [] stack]
  cases ((t.lines lines stack).run (t.cacheAfter calls)).result with
  | error e => rfl
  | ok r => rfl

end Tokenizer

end LineScopes
