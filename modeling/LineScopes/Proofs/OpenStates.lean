/-
Open states, from the match that opens them to the match that closes them.

A match that opens a rule puts a state on the stack, one that closes a rule takes the
innermost state away, and a plain match does neither.  So the states of a document answer
to the matches that opened them, one by one, also when these lie in earlier lines whose text
is gone.

* `Leads` — the matches of a line lead from one stack to another; `leads_of_line` says so
  of a run;
* `Opening` — a line and a match in it, and `Opening.Opens` the state that it opens;
* `Tokenizer.Reaches` — the stacks of a document, with the openings of their states;
* `states_opened_along_document` — what is open in a document, and what a line changes.
-/
import LineScopes.Proofs.Course
import LineScopes.Proofs.ScriptedEngine
import Mathlib

namespace LineScopes

/-! ### Openings -/

/-- A line and a match that opened a rule in it. -/
structure Opening where
  line : String
  choice : Choice
deriving DecidableEq

namespace Opening

/-- The match opens the state: it is that of an existing region, with the scope of that rule, and
closes where the rule's closing pattern does, references in it resolved by the match. -/
def Opens (g : Grammar) (o : Opening) (s : OpenState) : Prop :=
  o.choice.kind = .opening ∧ s.rule = o.choice.rule ∧
    ∃ rule d, g.rule? s.rule = some rule ∧ rule.kind = .region d ∧ s.scope = rule.scope ∧
      s.closing = BackReference.resolve? d.closing o.line o.choice.found

/-- The openings of the states that are open after a match in a line, given those before it. -/
def after (line : String) (openings : List Opening) (c : Choice) : List Opening :=
  match c.kind with
  | .plain => openings
  | .opening => openings ++ [⟨line, c⟩]
  | .closing => openings.dropLast

end Opening

/-- A closing pattern is resolved exactly if it refers to a group. -/
theorem BackReference.isSome_resolve?_iff (pattern line : String) (found : Match) :
    (resolve? pattern line found).isSome = true ↔
      (pieces pattern.toList).any Piece.isReference = true := by
  unfold resolve?
  dsimp only
  split <;> simp_all

theorem Rule.delimiters?_eq_some_iff {rule : Rule} {d : Delimiters} :
    rule.delimiters? = some d ↔ rule.kind = .region d := by
  unfold delimiters?
  split <;> simp_all

/-! ### Matches and stacks -/

/-- The match makes the stack of the one before it. -/
inductive Applied.Makes (g : Grammar) (line : String) (a : Applied) : StateStack → Prop
  | plain (hkind : a.choice.kind = .plain) : Makes g line a a.before
  | opening (s : OpenState) (hs : Opening.Opens g ⟨line, a.choice⟩ s) :
      Makes g line a (a.before.push s)
  | closing (hkind : a.choice.kind = .closing) : Makes g line a a.before.pop

/-- The matches, each applied to the stack that the one before it made, lead from the first stack
to the last. -/
inductive Leads (g : Grammar) (line : String) (start : StateStack) :
    List Applied → StateStack → Prop
  | nil : Leads g line start [] start
  | snoc {as : List Applied} {a : Applied} {stack : StateStack}
      (has : Leads g line start as a.before) (ha : a.Makes g line stack) :
      Leads g line start (as ++ [a]) stack

namespace Leads

variable {g : Grammar} {line : String} {start stack : StateStack} {as : List Applied}

/-- The root stays. -/
theorem root_eq (h : Leads g line start as stack) : stack.root = start.root := by
  induction h with
  | nil => rfl
  | snoc has ha ih => cases ha <;> exact ih

/-- The states answer to their openings after the matches if they do before them. -/
theorem forall₂_opens (h : Leads g line start as stack) {openings : List Opening}
    (hopen : List.Forall₂ (fun s o => Opening.Opens g o s) start.nested openings) :
    List.Forall₂ (fun s o => Opening.Opens g o s) stack.nested
      ((as.map Applied.choice).foldl (Opening.after line) openings) := by
  induction h with
  | nil => exact hopen
  | @snoc as a stack has ha ih =>
    rw [List.map_append, List.foldl_append]
    generalize (as.map Applied.choice).foldl (Opening.after line) openings = others at ih
    show List.Forall₂ _ _ (Opening.after line others a.choice)
    cases ha with
    | plain hkind =>
      simp only [Opening.after, hkind]
      exact ih
    | opening s hs =>
      have hkind : a.choice.kind = .opening := hs.1
      simp only [Opening.after, hkind]
      exact List.rel_append ih (.cons hs .nil)
    | closing hkind =>
      simp only [Opening.after, hkind, StateStack.pop, List.dropLast_eq_take]
      rw [← ih.length_eq]
      exact List.forall₂_take _ ih

/-- What is open afterwards is some of what was open before, from the outermost state on, and what
the matches opened. -/
theorem exists_kept (h : Leads g line start as stack) :
    ∃ kept opened, kept <+: start.nested ∧ stack.nested = kept ++ opened ∧
      ∀ s ∈ opened, ∃ a ∈ as, Opening.Opens g ⟨line, a.choice⟩ s := by
  induction h with
  | nil => exact ⟨start.nested, [], List.prefix_rfl, by simp, by simp⟩
  | @snoc as a stack has ha ih =>
    obtain ⟨kept, opened, hkept, hnested, hopened⟩ := ih
    have hbefore : ∀ s ∈ opened, ∃ b ∈ as ++ [a], Opening.Opens g ⟨line, b.choice⟩ s := by
      intro s hs
      obtain ⟨b, hb, hopens⟩ := hopened s hs
      exact ⟨b, List.mem_append_left _ hb, hopens⟩
    cases ha with
    | plain hkind => exact ⟨kept, opened, hkept, hnested, hbefore⟩
    | opening s hs =>
      refine ⟨kept, opened ++ [s], hkept, by simp [StateStack.push, hnested], fun s' hs' => ?_⟩
      rcases List.mem_append.mp hs' with hs' | hs'
      · exact hbefore s' hs'
      · obtain rfl := List.mem_singleton.mp hs'
        exact ⟨a, by simp, hs⟩
    | closing hkind =>
      -- What is closed was opened by these matches, or else before them.
      rcases List.eq_nil_or_concat opened with rfl | ⟨opened, s, rfl⟩
      · refine ⟨kept.dropLast, [], (List.dropLast_prefix kept).trans hkept, ?_, by simp⟩
        simp [StateStack.pop, hnested]
      · refine ⟨kept, opened, hkept, ?_, fun s' hs' => hbefore s' (by simp [hs'])⟩
        simp [StateStack.pop, hnested, ← List.append_assoc]

end Leads

/-! ### Lines -/

namespace Tokenizer

variable {ε M : Type} {t : Tokenizer ε M} {line : String}

/-- A match that is chosen makes the stack of the place behind it. -/
theorem makes_of_verdict {p : Place} {c : Choice} (h : t.verdictAt line p = .ok (some c))
    (gap tokens : List Token) :
    Applied.Makes t.grammar line ⟨c, p.stack, gap, tokens⟩ (p.after t.grammar line c).stack := by
  obtain ⟨rule, hrule, hallows⟩ := exists_rule_of_verdict h
  show Applied.Makes _ _ _ (applyChoice t.grammar line c p.stack).stack
  cases hkind : c.kind with
  | plain =>
    rw [(applyChoice_plain hrule hkind).2]
    exact .plain hkind
  | opening =>
    rw [hkind] at hallows
    obtain ⟨d, hd⟩ := hallows
    rw [(applyChoice_opening hrule hkind hd).2]
    refine .opening _ ⟨hkind, rfl, rule, d, hrule, Rule.delimiters?_eq_some_iff.mp hd, rfl, ?_⟩
    simp [openedState, hd]
  | closing =>
    rw [hkind] at hallows
    obtain ⟨d, hd⟩ := hallows
    rw [(applyChoice_closing hrule hkind hd).2]
    exact .closing hkind

/-- The matches applied on a walk lead to the stack of its last place. -/
theorem leads_of_walk {stack : StateStack} {q : Place}
    (hwalk : Relation.ReflTransGen (t.Moves line) (.first stack) q) :
    Leads t.grammar line stack q.applied.reverse q.stack := by
  induction hwalk with
  | refl => exact .nil
  | tail _ hmove ih =>
    obtain ⟨c, hc, -⟩ := hmove
    simp only [Place.after, List.reverse_cons]
    exact .snoc ih (makes_of_verdict hc _ _)

/-- The matches of a line lead from the stack at its beginning to the one at its end. -/
theorem leads_of_line (hforward : t.engine.SearchesForward) {stack : StateStack}
    {cache : PatternCache M} (hcache : t.engine.Coherent cache) {run : LineRun}
    (h : ((t.line line stack).run cache).result = .ok run) :
    Leads t.grammar line stack run.applied run.stack := by
  rcases exists_walk_of_line hforward hcache h with rfl | ⟨q, hwalk, hclose | rfl⟩
  · exact .nil
  · cases hclose <;> exact leads_of_walk hwalk
  · exact leads_of_walk hwalk

/-! ### Documents -/

/-- The stacks reached from the initial one by lines that come to an end, each tokenized after
whatever calls, and the openings of their states. -/
inductive Reaches (t : Tokenizer ε M) : List Opening → StateStack → Prop
  | initial : Reaches t [] (.initial t.grammar)
  | line {openings : List Opening} {stack : StateStack} (hstack : Reaches t openings stack)
      (calls : List Call) {line : String} {run : LineRun}
      (hrun : ((t.line line stack).run (t.cacheAfter calls)).result = .ok run) :
      Reaches t ((run.applied.map Applied.choice).foldl (Opening.after line) openings) run.stack

theorem Reaches.root_eq (hforward : t.engine.SearchesForward) {openings : List Opening}
    {stack : StateStack} (h : t.Reaches openings stack) :
    stack.root = (StateStack.initial t.grammar).root := by
  induction h with
  | initial => rfl
  | line hstack calls hrun ih =>
    exact ((leads_of_line hforward (t.coherent_cacheAfter calls) hrun).root_eq).trans ih

theorem Reaches.forall₂_opens (hforward : t.engine.SearchesForward) {openings : List Opening}
    {stack : StateStack} (h : t.Reaches openings stack) :
    List.Forall₂ (fun s o => Opening.Opens t.grammar o s) stack.nested openings := by
  induction h with
  | initial => exact .nil
  | line hstack calls hrun ih =>
    exact (leads_of_line hforward (t.coherent_cacheAfter calls) hrun).forall₂_opens ih

/-- In a document, the root state is that of the grammar's root, and each state inside it is the one
that its opening opened, with a closing pattern of its own exactly if the rule's closing pattern
refers to a group.  And whatever is open at its beginning, a line that comes to an end leads by
matches that open a state, close the innermost one inside the root or leave the stack as it is; so
that in the end some of the states are open that were, unchanged, the root at least, and inside
them those that were opened in the line. -/
theorem states_opened_along_document (hengine : t.engine.StaysInLine) :
    (∀ {openings stack}, t.Reaches openings stack →
      stack.root = ⟨t.grammar.root, (t.grammar.rule? t.grammar.root).bind Rule.scope, none⟩ ∧
      List.Forall₂ (fun s o => Opening.Opens t.grammar o s) stack.nested openings ∧
      ∀ s ∈ stack.nested, ∃ rule d, t.grammar.rule? s.rule = some rule ∧ rule.kind = .region d ∧
        s.scope = rule.scope ∧
        (s.closing.isSome ↔ (BackReference.pieces d.closing.toList).any
          BackReference.Piece.isReference)) ∧
    ∀ {calls line stack run}, ((t.line line stack).run (t.cacheAfter calls)).result = .ok run →
      Leads t.grammar line stack run.applied run.stack ∧
      ∃ kept opened, kept ≠ [] ∧ kept <+: stack.states ∧ run.stack.states = kept ++ opened ∧
        ∀ s ∈ opened, ∃ a ∈ run.applied, Opening.Opens t.grammar ⟨line, a.choice⟩ s := by
  have hforward := hengine.searchesForward
  refine ⟨fun {openings stack} h => ⟨h.root_eq hforward, h.forall₂_opens hforward, ?_⟩,
    fun {calls line stack run} h => ?_⟩
  · have hopens := h.forall₂_opens hforward
    intro s hs
    obtain ⟨i, rfl⟩ := List.mem_iff_get.mp hs
    obtain ⟨-, -, rule, d, hrule, hkind, hscope, hclosing⟩ :=
      hopens.get i.isLt (hopens.length_eq ▸ i.isLt)
    refine ⟨rule, d, hrule, hkind, hscope, ?_⟩
    rw [hclosing, BackReference.isSome_resolve?_iff]
  · have hleads := leads_of_line hforward (t.coherent_cacheAfter calls) h
    obtain ⟨kept, opened, hkept, hnested, hopened⟩ := hleads.exists_kept
    refine ⟨hleads, stack.root :: kept, opened, by simp, ?_, ?_, hopened⟩
    · exact List.cons_prefix_cons.mpr ⟨rfl, hkept⟩
    · rw [StateStack.states, hleads.root_eq, hnested, List.cons_append]

/-- A region whose closing pattern is the letter behind the sign that opens it. -/
def heredoc : Tokenizer Scripted.NoEntry (List Scripted.Entry) where
  grammar := ⟨#[⟨.container, some (.ofString "text"), [1]⟩,
    ⟨.region ⟨"<(.)", "\\1", .none, .none, .none⟩, some (.ofString "heredoc"), []⟩], 0⟩
  engine := Scripted.engine
    [("<(.)", [⟨⟨⟨0, 2⟩, [some ⟨1, 2⟩]⟩, some "<a", none⟩,
        ⟨⟨⟨1, 3⟩, [some ⟨2, 3⟩]⟩, some "a<b", none⟩]),
      ("a", [⟨⟨⟨0, 1⟩, []⟩, some "a<b", none⟩]),
      ("b", [])]
  limit := none

/-- The line `<a` leaves it open; the line `a<b` closes it, and opens it again for another
letter. -/
theorem states_opened_along_heredoc :
    heredoc.engine.StaysInLine ∧
    ∃ first second,
      ((heredoc.line "<a" (.initial heredoc.grammar)).run (heredoc.cacheAfter [])).result =
        .ok first ∧
      ((heredoc.line "a<b" first.stack).run (heredoc.cacheAfter [])).result = .ok second ∧
      heredoc.Reaches [⟨"a<b", ⟨.opening, 1, ⟨⟨1, 3⟩, [some ⟨2, 3⟩]⟩⟩⟩] second.stack ∧
      second.stack.nested = [⟨1, some (.ofString "heredoc"), some "b"⟩] ∧
      List.Forall₂ (fun s o => Opening.Opens heredoc.grammar o s) second.stack.nested
        [⟨"a<b", ⟨.opening, 1, ⟨⟨1, 3⟩, [some ⟨2, 3⟩]⟩⟩⟩] ∧
      Leads heredoc.grammar "a<b" first.stack second.applied second.stack := by
  have hengine : heredoc.engine.StaysInLine := Scripted.staysInLine (by decide)
  have hfirst : (((heredoc.line "<a" (.initial heredoc.grammar)).run
      (heredoc.cacheAfter [])).result.map fun run => (run.applied.map Applied.choice, run.stack)) =
      .ok ([⟨.opening, 1, ⟨⟨0, 2⟩, [some ⟨1, 2⟩]⟩⟩],
        ⟨⟨0, some (.ofString "text"), none⟩, [⟨1, some (.ofString "heredoc"), some "a"⟩]⟩) := by
    cbv
  cases h : ((heredoc.line "<a" (.initial heredoc.grammar)).run (heredoc.cacheAfter [])).result with
  | error e =>
    rw [h] at hfirst
    cases hfirst
  | ok first =>
    rw [h] at hfirst
    obtain ⟨hchoices, hstack⟩ := Prod.mk.inj (Except.ok.inj hfirst)
    have hsecond : (((heredoc.line "a<b" first.stack).run (heredoc.cacheAfter [])).result.map
        fun run => (run.applied.map Applied.choice, run.stack)) =
        .ok ([⟨.closing, 1, ⟨⟨0, 1⟩, []⟩⟩, ⟨.opening, 1, ⟨⟨1, 3⟩, [some ⟨2, 3⟩]⟩⟩],
          ⟨⟨0, some (.ofString "text"), none⟩, [⟨1, some (.ofString "heredoc"), some "b"⟩]⟩) := by
      rw [hstack]
      cbv
    cases h' : ((heredoc.line "a<b" first.stack).run (heredoc.cacheAfter [])).result with
    | error e =>
      rw [h'] at hsecond
      cases hsecond
    | ok second =>
      rw [h'] at hsecond
      obtain ⟨hchoices', hstack'⟩ := Prod.mk.inj (Except.ok.inj hsecond)
      have hreaches := (Reaches.initial.line [] h).line [] h'
      rw [hchoices, hchoices'] at hreaches
      obtain ⟨hopens, hleads⟩ := states_opened_along_document hengine
      exact ⟨hengine, first, second, rfl, h', hreaches, by rw [hstack'], (hopens hreaches).2.1,
        (hleads h').1⟩

end Tokenizer

end LineScopes
