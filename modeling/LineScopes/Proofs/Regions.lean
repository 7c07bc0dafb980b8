/-
Scopes bracket the region of a state.

From the match that opens a state to the match that closes it, both included, every token
lies on the scopes that were open when the state was: those of the states below it, and its
own.  This holds across lines, whatever is opened and closed inside the region.

* `Step` — what adds tokens, with the stack before and after: text that nothing matched, or a
  match; `LineRun.steps` are those of a line;
* `Passage` — steps that follow each other, each doing to the stack what its match does;
* `lifetime` — the steps up to the one that closes a state;
* `Passage.scopes_of_mem_lifetime` — the scopes of the states that stay open do not change;
* `tokens_within_regions` — the tokens of consecutive lines.
-/
import LineScopes.Proofs.MatchScopes
import LineScopes.Proofs.OpenStates

namespace LineScopes

/-! ### Steps -/

/-- Tokens that are added in one go, with the match they are due to, if any, and the stack before
and after. -/
structure Step where
  choice : Option Choice
  before : StateStack
  tokens : List Token
  after : StateStack

/-- The steps of matches that lead to a stack: in front of each match is the text that nothing
matched. -/
def stepsTo (stop : StateStack) : List Applied → List Step
  | [] => []
  | a :: as =>
    ⟨none, a.before, a.gap, a.before⟩ ::
      ⟨some a.choice, a.before, a.tokens, (as.head?.map Applied.before).getD stop⟩ ::
        stepsTo stop as

/-- The steps of a line; the last one is the text behind the last match. -/
def LineRun.steps (r : LineRun) : List Step :=
  stepsTo r.stack r.applied ++ [⟨none, r.stack, r.rest, r.stack⟩]

/-- The steps up to a place. -/
def Place.steps (p : Place) : List Step := stepsTo p.stack p.applied.reverse

theorem stepsTo_concat (stop : StateStack) (as : List Applied) (a : Applied) :
    stepsTo stop (as ++ [a]) = stepsTo a.before as ++
      [⟨none, a.before, a.gap, a.before⟩, ⟨some a.choice, a.before, a.tokens, stop⟩] := by
  induction as with
  | nil => rfl
  | cons b as ih =>
    rw [List.cons_append, stepsTo, stepsTo, ih]
    cases as <;> rfl

/-- The steps of a line have all of its tokens. -/
theorem LineRun.tokens_eq_flatMap_steps (r : LineRun) : r.tokens = r.steps.flatMap Step.tokens := by
  have happlied : ∀ as, (stepsTo r.stack as).flatMap Step.tokens =
      as.flatMap fun a => a.gap ++ a.tokens := by
    intro as
    induction as with
    | nil => rfl
    | cons a as ih => simp [stepsTo, ih]
  rw [LineRun.tokens, LineRun.steps, List.flatMap_append, happlied]
  simp

/-! ### What a step does -/

namespace Step

/-- The step is a match that opens a state. -/
def IsOpening (e : Step) : Prop := ∃ c ∈ e.choice, c.kind = .opening

/-- What a step does to the stack: nothing, unless its match opens a state or closes the innermost
one. -/
inductive Lawful : Step → Prop
  | still {stack : StateStack} {tokens : List Token} : Lawful ⟨none, stack, tokens, stack⟩
  | plain {c : Choice} {stack : StateStack} {tokens : List Token} (hkind : c.kind = .plain) :
      Lawful ⟨some c, stack, tokens, stack⟩
  | opening {c : Choice} {stack : StateStack} {tokens : List Token} {s : OpenState}
      (hkind : c.kind = .opening) (hrule : s.rule = c.rule) :
      Lawful ⟨some c, stack, tokens, stack.push s⟩
  | closing {c : Choice} {stack : StateStack} {tokens : List Token} (hkind : c.kind = .closing) :
      Lawful ⟨some c, stack, tokens, stack.pop⟩

/-- The tokens of a step lie on the scopes before it, and if it opens a state, on the scope of that
state as well. -/
structure Bracketed (e : Step) : Prop where
  before : ∀ token ∈ e.tokens, e.before.scopeNames <+: token.scopes
  opening : e.IsOpening → ∀ token ∈ e.tokens, e.after.scopeNames <+: token.scopes

theorem lawful_still (stack : StateStack) (start stop : Nat) :
    Lawful ⟨none, stack, stretch start stop stack, stack⟩ ∧
      Bracketed ⟨none, stack, stretch start stop stack, stack⟩ := by
  refine ⟨.still, fun token htoken => ?_, ?_⟩
  · rw [stretch_eq_lay] at htoken
    exact StateStack.scopeNames_prefix_of_mem_lay htoken
  · rintro ⟨c, hc, -⟩
    cases hc

end Step

namespace Tokenizer

variable {ε M : Type} {t : Tokenizer ε M} {line : String}

/-- What a match does to the stack, and where its tokens lie. -/
theorem lawful_of_verdict (hengine : t.engine.StaysInLine) {p : Place} {c : Choice}
    (hc : t.verdictAt line p = .ok (some c)) :
    let effect := applyChoice t.grammar line c p.stack
    Step.Lawful ⟨some c, p.stack, effect.tokens, effect.stack⟩ ∧
      Step.Bracketed ⟨some c, p.stack, effect.tokens, effect.stack⟩ := by
  intro effect
  obtain ⟨-, hmatch, -⟩ := span_of_verdict hengine hc
  obtain ⟨rule, hrule, hallows⟩ := exists_rule_of_verdict hc
  -- All tokens of a match are laid on one stack, which depends on its kind.
  have hlaid : ∀ {captures stack}, effect.tokens = matchTokens c.found captures stack →
      ∀ token ∈ effect.tokens, stack.scopeNames <+: token.scopes := by
    intro captures stack htokens token htoken
    rw [htokens, matchTokens_eq_lay hmatch] at htoken
    exact StateStack.scopeNames_prefix_of_mem_lay htoken
  have hopens : Step.IsOpening ⟨some c, p.stack, effect.tokens, effect.stack⟩ →
      c.kind = .opening := by
    rintro ⟨c', hc', hopening⟩
    obtain rfl := Option.some.inj hc'
    exact hopening
  cases hkind : c.kind with
  | plain =>
    obtain ⟨htokens, hstack⟩ : effect.tokens = _ ∧ effect.stack = p.stack :=
      applyChoice_plain hrule hkind
    refine ⟨?_, fun token htoken => ?_, fun hopening => ?_⟩
    · rw [hstack]
      exact .plain hkind
    · have hpushed := hlaid htokens token htoken
      rw [StateStack.scopeNames_push] at hpushed
      exact (List.prefix_append _ _).trans hpushed
    · exact absurd (hkind.symm.trans (hopens hopening)) nofun
  | opening =>
    rw [hkind] at hallows
    obtain ⟨d, hd⟩ := hallows
    obtain ⟨htokens, hstack⟩ :
        effect.tokens = _ ∧ effect.stack = p.stack.push (openedState rule line c) :=
      applyChoice_opening hrule hkind hd
    have hpushed := hlaid htokens
    refine ⟨?_, fun token htoken => ?_, fun _ token htoken => ?_⟩
    · rw [hstack]
      exact .opening hkind rfl
    · have hafter := hpushed token htoken
      rw [StateStack.scopeNames_push] at hafter
      exact (List.prefix_append _ _).trans hafter
    · rw [hstack]
      exact hpushed token htoken
  | closing =>
    rw [hkind] at hallows
    obtain ⟨d, hd⟩ := hallows
    obtain ⟨htokens, hstack⟩ : effect.tokens = _ ∧ effect.stack = p.stack.pop :=
      applyChoice_closing hrule hkind hd
    refine ⟨?_, hlaid htokens, fun hopening => ?_⟩
    · rw [hstack]
      exact .closing hkind
    · exact absurd (hkind.symm.trans (hopens hopening)) nofun

end Tokenizer

/-! ### Steps that follow each other -/

/-- The steps lead from the first stack to the last, each of them beginning where the one before it
ended. -/
inductive Passage : StateStack → List Step → StateStack → Prop
  | nil (stack : StateStack) : Passage stack [] stack
  | cons {e : Step} {es : List Step} {stop : StateStack} (he : e.Lawful)
      (hes : Passage e.after es stop) : Passage e.before (e :: es) stop

/-- The steps up to the one behind which at most `n` states are open, that one included. -/
def lifetime (n : Nat) : List Step → List Step
  | [] => []
  | e :: es => if n < e.after.depth then e :: lifetime n es else [e]

/-- The scopes of the states up to the one with `n` states below it. -/
def StateStack.scopesUpTo (s : StateStack) (n : Nat) : List ScopeName :=
  (s.states.take (n + 1)).filterMap OpenState.scope

namespace StateStack

theorem scopesUpTo_prefix (s : StateStack) (n : Nat) : s.scopesUpTo n <+: s.scopeNames :=
  (List.take_prefix _ _).filterMap _

theorem scopesUpTo_zero (s : StateStack) : s.scopesUpTo 0 = s.root.scope.toList := by
  rw [scopesUpTo, states, List.take_succ_cons, List.take_zero]
  cases h : s.root.scope <;> simp [h]

theorem scopesUpTo_push_depth (s : StateStack) (state : OpenState) :
    (s.push state).scopesUpTo s.depth = (s.push state).scopeNames := by
  have hall : (s.push state).states.length ≤ s.depth + 1 := by simp
  rw [scopesUpTo, List.take_of_length_le hall, scopeNames]

/-- Opening a state does not change those that are open. -/
theorem scopesUpTo_push {s : StateStack} {n : Nat} (hn : n < s.depth) (state : OpenState) :
    (s.push state).scopesUpTo n = s.scopesUpTo n := by
  rw [scopesUpTo, states_push, List.take_append_of_le_length hn, scopesUpTo]

/-- Nor does closing one inside of them. -/
theorem scopesUpTo_pop {s : StateStack} {n : Nat} (hn : n < s.pop.depth) :
    s.pop.scopesUpTo n = s.scopesUpTo n := by
  have hlen : n ≤ s.nested.length - 1 := by
    simp only [depth, pop, List.length_dropLast] at hn
    omega
  simp only [scopesUpTo, states, pop, List.take_succ_cons, List.dropLast_eq_take,
    List.take_take, Nat.min_eq_left hlen]

end StateStack

namespace Passage

variable {start stop : StateStack} {es : List Step}

theorem append {middle : StateStack} {fs : List Step} (h : Passage start es middle)
    (h' : Passage middle fs stop) : Passage start (es ++ fs) stop := by
  induction h with
  | nil => exact h'
  | cons he _ ih => exact .cons he (ih h')

/-- What follows a step begins where that step ended. -/
theorem of_append_cons {earlier later : List Step} {e : Step}
    (h : Passage start (earlier ++ e :: later) stop) : e.Lawful ∧ Passage e.after later stop := by
  induction earlier generalizing start with
  | nil =>
    cases h with
    | cons he hes => exact ⟨he, hes⟩
  | cons f fs ih =>
    cases h with
    | cons _ hes => exact ih hes

/-- As long as a state is open, all tokens lie on its scope and on those below it. -/
theorem scopes_of_mem_lifetime (h : Passage start es stop) (hes : ∀ e ∈ es, e.Bracketed) {n : Nat}
    (hn : n < start.depth) :
    ∀ e ∈ lifetime n es, ∀ token ∈ e.tokens, start.scopesUpTo n <+: token.scopes := by
  induction h with
  | nil => simp [lifetime]
  | @cons e es stop he hrest ih =>
    obtain ⟨hfirst, hothers⟩ := List.forall_mem_cons.mp hes
    have hown : ∀ token ∈ e.tokens, e.before.scopesUpTo n <+: token.scopes := fun token htoken =>
      (e.before.scopesUpTo_prefix n).trans (hfirst.before token htoken)
    intro f hf
    rw [lifetime] at hf
    split at hf
    · next hopen =>
      -- The state is still open behind this step, with the same scopes below it.
      have hsame : e.after.scopesUpTo n = e.before.scopesUpTo n := by
        cases he with
        | still => rfl
        | plain _ => rfl
        | opening _ _ => exact StateStack.scopesUpTo_push hn _
        | closing _ => exact StateStack.scopesUpTo_pop hopen
      rcases List.mem_cons.mp hf with rfl | hf
      · exact hown
      · rw [← hsame]
        exact ih hothers hopen f hf
    · obtain rfl := List.mem_singleton.mp hf
      exact hown

/-- The root stays open, so that nothing comes behind its lifetime. -/
theorem lifetime_zero (es : List Step) : lifetime 0 es = es := by
  induction es with
  | nil => rfl
  | cons e es ih => rw [lifetime, if_pos (show 0 < e.after.depth from Nat.succ_pos _), ih]

end Passage

/-! ### The steps of lines -/

namespace Tokenizer

variable {ε M : Type} {t : Tokenizer ε M} {line : String}

/-- On the way through a line, the steps follow each other. -/
theorem passage_of_walk (hengine : t.engine.StaysInLine) {stack : StateStack} {q : Place}
    (hwalk : Relation.ReflTransGen (t.Moves line) (.first stack) q) :
    Passage stack q.steps q.stack ∧ ∀ e ∈ q.steps, e.Bracketed := by
  induction hwalk with
  | refl => exact ⟨.nil stack, nofun⟩
  | @tail p q _ hmove ih =>
    obtain ⟨hpassage, hbracketed⟩ := ih
    obtain ⟨c, hc, -⟩ := hmove
    obtain ⟨hstill, hgap⟩ := Step.lawful_still p.stack p.pos c.found.span.start
    obtain ⟨hlawful, hmatch⟩ := lawful_of_verdict hengine hc
    have hsteps : (p.after t.grammar line c).steps = p.steps ++
        [⟨none, p.stack, stretch p.pos c.found.span.start p.stack, p.stack⟩,
          ⟨some c, p.stack, (applyChoice t.grammar line c p.stack).tokens,
            (applyChoice t.grammar line c p.stack).stack⟩] := by
      simp only [Place.steps, Place.after, List.reverse_cons, stepsTo_concat]
    rw [hsteps]
    refine ⟨hpassage.append (.cons hstill (.cons hlawful (.nil _))), fun e he => ?_⟩
    rcases List.mem_append.mp he with he | he
    · exact hbracketed e he
    · simp only [List.mem_cons, List.not_mem_nil, or_false] at he
      rcases he with rfl | rfl
      · exact hgap
      · exact hmatch

theorem passage_of_line (hengine : t.engine.StaysInLine) {stack : StateStack}
    {cache : PatternCache M} (hcache : t.engine.Coherent cache) {run : LineRun}
    (h : ((t.line line stack).run cache).result = .ok run) :
    Passage stack run.steps run.stack ∧ ∀ e ∈ run.steps, e.Bracketed := by
  -- A run ends at a place, and gives the text that is left to the states that are open there.
  have hend : ∀ {q : Place} {rest : List Token} {ending : Ending},
      Passage stack q.steps q.stack ∧ (∀ e ∈ q.steps, e.Bracketed) →
      (∀ token ∈ rest, q.stack.scopeNames <+: token.scopes) →
      Passage stack (LineRun.steps ⟨q.applied.reverse, ending, rest, q.stack⟩) q.stack ∧
        ∀ e ∈ LineRun.steps ⟨q.applied.reverse, ending, rest, q.stack⟩, e.Bracketed := by
    rintro q rest ending ⟨hpassage, hbracketed⟩ hrest
    refine ⟨hpassage.append (.cons .still (.nil _)), fun e he => ?_⟩
    rcases List.mem_append.mp he with he | he
    · exact hbracketed e he
    · obtain rfl := List.mem_singleton.mp he
      refine ⟨hrest, ?_⟩
      rintro ⟨c, hc, -⟩
      cases hc
  have hstretch : ∀ {start stop : Nat} {q : Place}, ∀ token ∈ stretch start stop q.stack,
      q.stack.scopeNames <+: token.scopes := fun {start stop q} =>
    (Step.lawful_still q.stack start stop).2.before
  rcases exists_walk_of_line hengine.searchesForward hcache h with rfl | ⟨q, hwalk, hclose | rfl⟩
  · exact hend (q := .first stack) ⟨.nil stack, nofun⟩ hstretch
  · have hq := passage_of_walk hengine hwalk
    cases hclose with
    | noMatch _ => exact hend hq hstretch
    | repeated c _ _ =>
      refine hend hq fun token htoken => ?_
      rcases List.mem_append.mp htoken with htoken | htoken
      · exact hstretch token htoken
      · exact hstretch token htoken
  · exact hend (passage_of_walk hengine hwalk) hstretch

theorem passage_of_lines (hengine : t.engine.StaysInLine) {lines : List String} :
    ∀ {start stop : StateStack} {runs : List LineRun} {cache : PatternCache M},
      t.engine.Coherent cache → ((t.lines lines start).run cache).result = .ok (runs, stop) →
      Passage start (runs.flatMap LineRun.steps) stop ∧
        ∀ e ∈ runs.flatMap LineRun.steps, e.Bracketed := by
  induction lines with
  | nil =>
    intro start stop runs cache _ h
    obtain ⟨rfl, rfl⟩ := Prod.mk.inj (Except.ok.inj h)
    exact ⟨.nil start, nofun⟩
  | cons l ls ih =>
    intro start stop runs cache hcache h
    rw [Tokenizer.lines] at h
    obtain ⟨run, hline, h⟩ := Session.exists_ok_of_result_bind h
    obtain ⟨⟨runs', stop'⟩, hrest, h⟩ := Session.exists_ok_of_result_bind h
    obtain ⟨rfl, rfl⟩ := Prod.mk.inj (Except.ok.inj h)
    obtain ⟨hpassage, hbracketed⟩ := passage_of_line hengine hcache hline
    obtain ⟨hpassage', hbracketed'⟩ := ih ((t.settles_line l start).coherent hcache) hrest
    rw [List.flatMap_cons]
    exact ⟨hpassage.append hpassage', List.forall_mem_append.mpr ⟨hbracketed, hbracketed'⟩⟩

/-- Whatever stack consecutive lines begin with, their tokens are those of steps that lead from it
to the stack in the end, each doing to the stack what its match does.  A state that is open at the
beginning has its scope, on top of those of the states below it, under every token up to the match
that closes it, or to the end of the lines if none does; and so has a state that a match opens, from
that match on.  So the scope of the root comes first in every token. -/
theorem tokens_within_regions (hengine : t.engine.StaysInLine) (calls : List Call)
    {lines : List String} {start stop : StateStack} {runs : List LineRun}
    (h : ((t.lines lines start).run (t.cacheAfter calls)).result = .ok (runs, stop)) :
    (∀ run ∈ runs, run.tokens = run.steps.flatMap Step.tokens) ∧
    Passage start (runs.flatMap LineRun.steps) stop ∧
    (∀ n < start.depth, ∀ e ∈ lifetime n (runs.flatMap LineRun.steps), ∀ token ∈ e.tokens,
      start.scopesUpTo n <+: token.scopes) ∧
    (∀ earlier e later, runs.flatMap LineRun.steps = earlier ++ e :: later → e.IsOpening →
      ∀ e' ∈ e :: lifetime e.before.depth later, ∀ token ∈ e'.tokens,
        e.after.scopeNames <+: token.scopes) ∧
    ∀ name, start.root.scope = some name → ∀ run ∈ runs, ∀ token ∈ run.tokens,
      token.scopes.head? = some name := by
  obtain ⟨hpassage, hbracketed⟩ := passage_of_lines hengine (t.coherent_cacheAfter calls) h
  have hlifetime : ∀ n < start.depth, ∀ e ∈ lifetime n (runs.flatMap LineRun.steps),
      ∀ token ∈ e.tokens, start.scopesUpTo n <+: token.scopes := fun n hn =>
    hpassage.scopes_of_mem_lifetime hbracketed hn
  refine ⟨fun run _ => run.tokens_eq_flatMap_steps, hpassage, hlifetime, ?_, ?_⟩
  · intro earlier e later hsteps hopening e' he' token htoken
    rw [hsteps] at hpassage hbracketed
    obtain ⟨hlawful, hlater⟩ := hpassage.of_append_cons
    obtain ⟨-, hown, hothers⟩ := List.forall_mem_append.mp hbracketed |>.imp_right
      List.forall_mem_cons.mp
    rcases List.mem_cons.mp he' with rfl | he'
    · exact hown.opening hopening token htoken
    · -- What the match opened is the innermost state, so its lifetime is that of all scopes.
      obtain ⟨s, hafter⟩ : ∃ s, e.after = e.before.push s := by
        obtain ⟨c, hc, hkind⟩ := hopening
        cases hlawful with
        | still => cases hc
        | plain hplain =>
          obtain rfl := Option.some.inj hc
          exact absurd (hplain.symm.trans hkind) nofun
        | opening _ _ => exact ⟨_, rfl⟩
        | closing hclosing =>
          obtain rfl := Option.some.inj hc
          exact absurd (hclosing.symm.trans hkind) nofun
      have hdepth : e.before.depth < e.after.depth := by
        rw [hafter]
        simp [StateStack.depth, StateStack.push]
      have hscopes := hlater.scopes_of_mem_lifetime hothers hdepth e' he' token htoken
      rwa [hafter, StateStack.scopesUpTo_push_depth, ← hafter] at hscopes
  · intro name hname run hrun token htoken
    rw [run.tokens_eq_flatMap_steps] at htoken
    obtain ⟨e, he, htoken⟩ := List.mem_flatMap.mp htoken
    have hmem : e ∈ lifetime 0 (runs.flatMap LineRun.steps) := by
      rw [Passage.lifetime_zero]
      exact List.mem_flatMap.mpr ⟨run, hrun, he⟩
    have hroot := hlifetime 0 (Nat.succ_pos _) e hmem token htoken
    rw [StateStack.scopesUpTo_zero, hname] at hroot
    obtain ⟨rest, hrest⟩ := hroot
    rw [← hrest]
    rfl

/-- The region that the line `<a` opens lasts up to the `a` in the line `a<b`, which opens another
one behind it. -/
theorem tokens_within_heredoc_regions :
    heredoc.engine.StaysInLine ∧
    ∃ runs stop earlier opening later,
      ((heredoc.lines ["<a", "a<b", "c"] (.initial heredoc.grammar)).run
        (heredoc.cacheAfter [])).result = .ok (runs, stop) ∧
      runs.flatMap LineRun.steps = earlier ++ opening :: later ∧ opening.IsOpening ∧
      opening.after.scopeNames = [.ofString "text", .ofString "heredoc"] ∧
      (lifetime opening.before.depth later).map (fun e => e.tokens.map Token.span) =
        [[], [], [⟨0, 1⟩]] ∧
      ∀ e ∈ opening :: lifetime opening.before.depth later, ∀ token ∈ e.tokens,
        opening.after.scopeNames <+: token.scopes := by
  have hengine : heredoc.engine.StaysInLine := Scripted.staysInLine (by decide)
  have hview : (((heredoc.lines ["<a", "a<b", "c"] (.initial heredoc.grammar)).run
      (heredoc.cacheAfter [])).result.map fun r =>
        let steps := r.1.flatMap LineRun.steps
        (steps[1]?.map fun e => (e.choice.map Choice.kind, e.before.depth, e.after.scopeNames),
          (lifetime 1 (steps.drop 2)).map fun e => e.tokens.map Token.span)) =
      .ok (some (some .opening, 1, [.ofString "text", .ofString "heredoc"]),
        [[], [], [⟨0, 1⟩]]) := by
    cbv
  obtain ⟨⟨runs, stop⟩, h, hvalues⟩ := Scripted.exists_ok_of_map hview
  obtain ⟨hsecond, hspans⟩ := Prod.mk.inj hvalues
  obtain ⟨opening, hopening, hvalues⟩ := Option.map_eq_some_iff.mp hsecond
  obtain ⟨hchoice, hvalues⟩ := Prod.mk.inj hvalues
  obtain ⟨hdepth, hscopes⟩ := Prod.mk.inj hvalues
  have hsteps : runs.flatMap LineRun.steps = (runs.flatMap LineRun.steps).take 1 ++
      opening :: (runs.flatMap LineRun.steps).drop 2 := by
    have hdrop := List.drop_eq_getElem?_toList_append (l := runs.flatMap LineRun.steps) (i := 1)
    rw [hopening] at hdrop
    rw [← List.singleton_append, ← Option.toList_some, ← hdrop, List.take_append_drop]
  have hkind : opening.IsOpening := by
    obtain ⟨c, hc, hkind⟩ := Option.map_eq_some_iff.mp hchoice
    exact ⟨c, hc, hkind⟩
  obtain ⟨-, -, -, hregion, -⟩ := tokens_within_regions hengine [] h
  exact ⟨hengine, runs, stop, _, opening, _, h, hsteps, hkind, hscopes, by rw [hdepth, hspans],
    hregion _ _ _ hsteps hkind⟩

end Tokenizer

end LineScopes
