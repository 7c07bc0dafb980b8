/-
Names do not steer a tokenizer.

Names are only ever written into tokens and states.  So grammars that differ in names only
apply the same matches in the same lines and fail alike, and where different names stay
different under a renaming, the tokens are renamed with them.

* `LineRun.bare`, `LineRun.rename` — a run without names, and with other ones;
* `simulates_bare`, `simulates_rename` — the tokenizers go through a line together;
* `names_do_not_steer` — and so through consecutive lines.
-/
import LineScopes.Proofs.Coverage
import LineScopes.Proofs.Names
import LineScopes.Proofs.TwoRuns

namespace LineScopes

/-! ### Runs without names -/

/-- The match without names, and without tokens, which are cut where captures say so. -/
def Applied.bare (a : Applied) : Applied := ⟨a.choice, a.before.bare, [], []⟩

/-- The run without names: the matches that were applied, each to which open rules, how the line
ended, and the rules that are open then. -/
def LineRun.bare (r : LineRun) : LineRun :=
  ⟨r.applied.map Applied.bare, r.ending, [], r.stack.bare⟩

/-- The place without names. -/
def Place.bare (p : Place) : Place := ⟨p.pos, p.stack.bare, p.empties, p.applied.map Applied.bare⟩

/-! ### Runs with other names -/

/-- The match with other names. -/
def Applied.rename (f : ScopeName → ScopeName) (a : Applied) : Applied :=
  ⟨a.choice, a.before.rename f, a.gap.map (Token.rename f), a.tokens.map (Token.rename f)⟩

/-- The run with other names. -/
def LineRun.rename (f : ScopeName → ScopeName) (r : LineRun) : LineRun :=
  ⟨r.applied.map (Applied.rename f), r.ending, r.rest.map (Token.rename f), r.stack.rename f⟩

/-- The place with other names. -/
def Place.rename (f : ScopeName → ScopeName) (p : Place) : Place :=
  ⟨p.pos, p.stack.rename f, p.empties, p.applied.map (Applied.rename f)⟩

theorem LineRun.tokens_rename (f : ScopeName → ScopeName) (r : LineRun) :
    (r.rename f).tokens = r.tokens.map (Token.rename f) := by
  simp only [tokens, rename, Applied.rename, List.flatMap_map, List.map_append, List.map_flatMap]

/-! ### Matches -/

theorem Place.bare_after_congr {g g' : Grammar} (hg : g'.bare = g.bare) {p q : Place}
    (h : q.bare = p.bare) (line : String) (c : Choice) :
    (q.after g' line c).bare = (p.after g line c).bare := by
  obtain ⟨-, hstack, hempties, happlied⟩ := Place.mk.inj h
  simp only [Place.after, Place.bare, List.map_cons, bare_stack_applyChoice, hg, hempties, happlied,
    Applied.bare, hstack]

theorem Place.rename_after {f : ScopeName → ScopeName} (hf : Function.Injective f) (g : Grammar)
    (line : String) (p : Place) (c : Choice) :
    (p.rename f).after (g.rename f) line c = (p.after g line c).rename f := by
  obtain ⟨htokens, hstack⟩ := rename_applyChoice hf g line c p.stack
  simp only [Place.after, Place.rename, Applied.rename, htokens, hstack, stretch_rename,
    List.map_cons]

/-! ### Lines -/

namespace Tokenizer

variable {ε M : Type} {t : Tokenizer ε M} {g : Grammar} {line : String}

/-- Tokenizers whose grammars are the same without names go through a line together. -/
theorem simulates_bare (hg : g.bare = t.grammar.bare) :
    t.Simulates g line fun p q => q.bare = p.bare where
  size := by rw [← g.size_bare, hg, t.grammar.size_bare]
  pos h := (Place.mk.inj h).1.symm
  empties h := (Place.mk.inj h).2.2.1.symm
  plans {p q} h := by
    have htop : p.stack.top.bare = q.stack.top.bare := by
      rw [← StateStack.top_bare, ← StateStack.top_bare, (Place.mk.inj h).2.1]
    rw [t.grammar.plans_congr htop, ← t.grammar.plans_bare, ← hg, g.plans_bare]
  after h _ _ := Place.bare_after_congr hg h line _

/-- So do a tokenizer and its renaming, at places that are renamed likewise. -/
theorem simulates_rename {f : ScopeName → ScopeName} (hf : Function.Injective f) :
    t.Simulates (t.grammar.rename f) line fun p q => q = p.rename f where
  size := by rw [← Grammar.size_bare, Grammar.bare_rename, Grammar.size_bare]
  pos := by
    rintro p _ rfl
    rfl
  empties := by
    rintro p _ rfl
    rfl
  plans := by
    rintro p _ rfl
    have htop : p.stack.top.bare = (p.rename f).stack.top.bare := by
      show _ = (p.stack.rename f).top.bare
      rw [← StateStack.top_bare, ← StateStack.top_bare, StateStack.bare_rename]
    rw [t.grammar.plans_congr htop, ← t.grammar.plans_bare, ← Grammar.bare_rename f,
      Grammar.plans_bare]
  after := by
    rintro p _ c rfl _ _
    exact p.rename_after hf t.grammar line c

theorem bare_of_ends {size : Nat} {run run' : LineRun}
    (h : Ends size (fun p q => q.bare = p.bare) run run') : run'.bare = run.bare := by
  -- The text behind the last match is left out, so only the place and the ending count.
  have hend : ∀ {p q : Place} {ending : Ending} {rest rest' : List Token}, q.bare = p.bare →
      LineRun.bare ⟨q.applied.reverse, ending, rest', q.stack⟩ =
        LineRun.bare ⟨p.applied.reverse, ending, rest, p.stack⟩ := by
    intro p q ending rest rest' hpq
    obtain ⟨-, hstack, -, happlied⟩ := Place.mk.inj hpq
    simp only [LineRun.bare, List.map_reverse, happlied, hstack]
  cases h with
  | finish ending h => exact hend h
  | repeated c h => exact hend h

theorem rename_of_ends {f : ScopeName → ScopeName} {size : Nat} {run run' : LineRun}
    (h : Ends size (fun p q => q = p.rename f) run run') : run' = run.rename f := by
  cases h with
  | finish ending h =>
    subst h
    simp only [finish, LineRun.rename, Place.rename, stretch_rename, List.map_reverse]
  | repeated c h =>
    subst h
    simp only [Place.stopAt, LineRun.rename, Place.rename, stretch_rename, List.map_reverse,
      List.map_append]

theorem alike_lines_bare (hforward : t.engine.SearchesForward) (hg : g.bare = t.grammar.bare)
    (lines : List String) {s s' : StateStack} (hs : s'.bare = s.bare) :
    t.engine.Alike
      (fun r r' =>
        List.Forall₂ (fun run run' => run'.bare = run.bare) r.1 r'.1 ∧ r'.2.bare = r.2.bare)
      (t.lines lines s) ({ t with grammar := g }.lines lines s') := by
  refine alike_lines (S := fun s s' => s'.bare = s.bare) ?_ lines hs
  intro line s s' hs
  have hfirst : (Place.first s').bare = (Place.first s).bare := by
    simp only [Place.bare, Place.first, hs]
  refine ((simulates_bare hg).alike_line hforward hfirst).mono fun run run' hends => ?_
  have hrun := bare_of_ends hends
  exact ⟨hrun, congrArg LineRun.stack hrun⟩

theorem alike_lines_rename (hforward : t.engine.SearchesForward) {f : ScopeName → ScopeName}
    (hf : Function.Injective f) (lines : List String) (s : StateStack) :
    t.engine.Alike
      (fun r r' => List.Forall₂ (fun run run' => run' = run.rename f ∧
        run'.tokens = run.tokens.map (Token.rename f)) r.1 r'.1 ∧ r'.2 = r.2.rename f)
      (t.lines lines s)
      ({ t with grammar := t.grammar.rename f }.lines lines (s.rename f)) := by
  refine alike_lines (S := fun s s' => s' = s.rename f) ?_ lines rfl
  rintro line s _ rfl
  refine ((simulates_rename hf).alike_line hforward (s := s) rfl).mono fun run run' hends => ?_
  rw [rename_of_ends hends]
  exact ⟨⟨rfl, run.tokens_rename f⟩, rfl⟩

/-- Two grammars that are the same without names, from stacks that are, make the same of all lines,
whatever the calls before: both fail in the same line with the same error, or neither fails; up to
there the same matches are applied to the same open rules at the same bytes, each line ends alike,
and the same rules are open in the end, with the same closing patterns.  If the second grammar and
stack are renamings of the first that keep different names different, so are all runs with their
tokens. -/
theorem names_do_not_steer (hengine : t.engine.StaysInLine) (hg : g.bare = t.grammar.bare)
    {s s' : StateStack} (hs : s'.bare = s.bare) (calls calls' : List Call) (lines : List String) :
    let u : Tokenizer ε M := { t with grammar := g }
    (∀ n,
      let o := (t.lines (lines.take n) s).run (t.cacheAfter calls)
      let o' := (u.lines (lines.take n) s').run (u.cacheAfter calls')
      Agree (fun r r' =>
          List.Forall₂ (fun run run' => run'.bare = run.bare) r.1 r'.1 ∧ r'.2.bare = r.2.bare)
          o.result o'.result ∧
        applications o'.events = applications o.events) ∧
    ∀ f : ScopeName → ScopeName, Function.Injective f → g = t.grammar.rename f →
      s' = s.rename f →
      Agree (fun r r' =>
          List.Forall₂ (fun run run' => run' = run.rename f ∧
            run'.tokens = run.tokens.map (Token.rename f)) r.1 r'.1 ∧ r'.2 = r.2.rename f)
        ((t.lines lines s).run (t.cacheAfter calls)).result
        ((u.lines lines s').run (u.cacheAfter calls')).result := by
  have hforward := hengine.searchesForward
  have hcache := t.coherent_cacheAfter calls
  refine ⟨fun n => ?_, ?_⟩
  · obtain ⟨hresult, -, -, happlied⟩ := alike_lines_bare hforward hg (lines.take n) hs _ _ hcache
      (coherent_cacheAfter { t with grammar := g } calls')
    exact ⟨hresult, happlied.symm⟩
  · rintro f hf rfl rfl
    exact (alike_lines_rename hforward hf lines s _ _ hcache
      (coherent_cacheAfter { t with grammar := t.grammar.rename f } calls')).result

/-- The name, more specific in a document. -/
def inDocument (n : ScopeName) : ScopeName :=
  ⟨"document" :: n.parts, List.forall_mem_cons.mpr ⟨by decide, n.ne_empty⟩⟩

theorem inDocument_injective : Function.Injective inDocument := by
  intro m n h
  obtain ⟨parts, hne⟩ := m
  obtain ⟨parts', hne'⟩ := n
  obtain ⟨-, hparts⟩ := List.cons.inj (ScopeName.mk.inj h)
  subst hparts
  rfl

/-- Brackets open and close without any names, and with names in a document. -/
theorem names_do_not_steer_bracketed :
    let g := bracketed.grammar
    let nameless : Tokenizer _ _ := { bracketed with grammar := g.bare }
    let renamed : Tokenizer _ _ := { bracketed with grammar := g.rename inDocument }
    bracketed.engine.StaysInLine ∧ g.bare.bare = g.bare ∧
    applications ((nameless.lines ["é(a)b"] (StateStack.initial g).bare).run
        (nameless.cacheAfter [])).events =
      [.applying .opening 1 ⟨2, 3⟩, .applying .closing 1 ⟨4, 5⟩, .applying .plain 2 ⟨5, 5⟩] ∧
    (g.rename inDocument).bare = g.bare ∧ Function.Injective inDocument ∧
    ∃ runs stop,
      ((renamed.lines ["é(a)b"] ((StateStack.initial g).rename inDocument)).run
        (renamed.cacheAfter [])).result = .ok (runs, stop) ∧
      runs.map (fun run => run.tokens.map fun token => token.scopes.map ScopeName.toText) =
        [[["document.text"], ["document.text", "document.group", "document.punctuation"],
          ["document.text", "document.group"], ["document.text", "document.group"],
          ["document.text"]]] := by
  intro g nameless renamed
  have hengine : bracketed.engine.StaysInLine := Scripted.staysInLine (by decide)
  have hbare : g.bare.bare = g.bare := g.bare_bare
  have hrenamed : (g.rename inDocument).bare = g.bare := g.bare_rename inDocument
  have hview : (let o := (bracketed.lines ["é(a)b"] (.initial g)).run (bracketed.cacheAfter [])
      (applications o.events, o.result.map fun r => r.1.map LineRun.tokens)) =
      ([.applying .opening 1 ⟨2, 3⟩, .applying .closing 1 ⟨4, 5⟩, .applying .plain 2 ⟨5, 5⟩],
        .ok [[⟨⟨0, 2⟩, [.ofString "text"]⟩,
          ⟨⟨2, 3⟩, [.ofString "text", .ofString "group", .ofString "punctuation"]⟩,
          ⟨⟨3, 4⟩, [.ofString "text", .ofString "group"]⟩,
          ⟨⟨4, 5⟩, [.ofString "text", .ofString "group"]⟩, ⟨⟨5, 6⟩, [.ofString "text"]⟩]]) := by
    cbv
  obtain ⟨happlied, htokens⟩ := Prod.mk.inj hview
  have hsame := ((names_do_not_steer hengine hbare (StateStack.bare_bare (.initial g)) [] []
    ["é(a)b"]).1 1).2
  have hnamed := (names_do_not_steer hengine hrenamed
    (StateStack.bare_rename inDocument (.initial g)) [] [] ["é(a)b"]).2 inDocument
    inDocument_injective rfl rfl
  refine ⟨hengine, hbare, hsame.trans happlied, hrenamed, inDocument_injective, ?_⟩
  obtain ⟨r, hr, hvalues⟩ := Scripted.exists_ok_of_map htokens
  obtain ⟨run, hrun, htokens⟩ := List.map_eq_singleton_iff.mp hvalues
  obtain ⟨r', hr', hruns, -⟩ := hnamed.exists_ok hr
  rw [hrun] at hruns
  obtain ⟨run', rest, ⟨-, hrun'⟩, hrest, heq⟩ := List.forall₂_cons_left_iff.mp hruns
  obtain rfl := List.forall₂_nil_left_iff.mp hrest
  refine ⟨r'.1, r'.2, hr', ?_⟩
  rw [heq, List.map_singleton, hrun', htokens]
  decide

end Tokenizer

end LineScopes
