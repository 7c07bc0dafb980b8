/-
The tokens of a line cover it.

On the way through a line the tokens so far cover the text up to the place, and cut it
only where a match or a group begins or ends.  The end of the line adds what is left.

* `Place.Covered` — the invariant, kept by a move (`covered_of_moves`) and so by a walk;
* `partition_of_line` — the tokens of a run;
* `tokens_cover_line` — they leave no gap, do not overlap, and have texts that make up
  the line.
-/
import LineScopes.Proofs.Course
import LineScopes.Proofs.Tiling
import Mathlib

namespace LineScopes

/-- From places of the kind `P` on, only such matches are found in the line that begin and end,
with their groups, at places of that kind. -/
def Engine.CutsAt {ε M : Type} (engine : Engine ε M) (line : String) (P : Nat → Prop) : Prop :=
  ∀ ⦃pattern start found⦄, P start → engine.Finds pattern line start found → found.CutAt P

/-- A table of matches that begin and end at such places makes an engine that cuts there. -/
theorem Scripted.cutsAt {table : Scripted.Table} {line : String} {P : Nat → Prop}
    (h : ∀ row ∈ table, ∀ e ∈ row.2, e.found.CutAt P) : (Scripted.engine table).CutsAt line P := by
  intro pattern start found _ hfinds
  obtain ⟨row, hrow, e, he, rfl, -⟩ := Scripted.exists_entry_of_finds hfinds
  exact h row hrow e he

namespace Place

/-- The tokens of the matches applied so far, and of the text in front of them. -/
def tokens (p : Place) : List Token := p.applied.reverse.flatMap fun a => a.gap ++ a.tokens

theorem tokens_after (g : Grammar) (line : String) (p : Place) (c : Choice) :
    (p.after g line c).tokens =
      p.tokens ++ (stretch p.pos c.found.span.start p.stack ++
        (applyChoice g line c p.stack).tokens) := by
  simp [tokens, after]

/-- The place lies in the line, and the tokens so far cover the text in front of it. -/
structure Covered (P : Nat → Prop) (line : String) (p : Place) : Prop where
  inside : p.pos ≤ line.utf8ByteSize
  cut : P p.pos
  partition : Partition P 0 p.pos p.tokens

end Place

namespace Tokenizer

variable {ε M : Type} {t : Tokenizer ε M} {P : Nat → Prop} {line : String}

/-! ### On the way -/

/-- A match that is chosen cuts the line where the engine does. -/
theorem cutAt_of_verdict (hcuts : t.engine.CutsAt line P) {p : Place} {c : Choice} (hp : P p.pos)
    (h : t.verdictAt line p = .ok (some c)) : c.found.CutAt P := by
  obtain ⟨plan, -, -, -, hfinds⟩ := Engine.offers_of_verdict h
  exact hcuts hp hfinds

/-- The tokens so far, and the text in front of the match that is chosen, cover the line up to that
match. -/
theorem partition_of_verdict (hengine : t.engine.StaysInLine) (hcuts : t.engine.CutsAt line P)
    {p : Place} {c : Choice} (hp : p.Covered P line) (hc : t.verdictAt line p = .ok (some c)) :
    Partition P 0 c.found.span.start (p.tokens ++ stretch p.pos c.found.span.start p.stack) := by
  have hgap := (span_of_verdict hengine hc).1
  have hcut := cutAt_of_verdict hcuts hp.cut hc
  exact hp.partition.append (.stretch hgap hp.cut hcut.1.1 p.stack)

/-- A move covers the text up to the end of the match. -/
theorem covered_of_moves (hengine : t.engine.StaysInLine) (hcuts : t.engine.CutsAt line P)
    {p q : Place} (hp : p.Covered P line) (hmove : t.Moves line p q) : q.Covered P line := by
  obtain ⟨c, hc, -⟩ := hmove
  obtain ⟨-, hmatch, hinside⟩ := span_of_verdict hengine hc
  have hcut := cutAt_of_verdict hcuts hp.cut hc
  -- A rule that is missing, or has no delimiters, would leave the match without tokens.
  obtain ⟨rule, hrule, hallows⟩ := exists_rule_of_verdict hc
  obtain ⟨captures, s, htokens⟩ := exists_tokens_applyChoice line p.stack hrule hallows
  refine ⟨hinside, hcut.1.2, ?_⟩
  rw [Place.tokens_after, htokens, ← List.append_assoc]
  exact (partition_of_verdict hengine hcuts hp hc).append
    (partition_matchTokens captures s hmatch hcut)

theorem covered_of_walk (hengine : t.engine.StaysInLine) (hcuts : t.engine.CutsAt line P)
    {p q : Place} (hp : p.Covered P line) (hwalk : Relation.ReflTransGen (t.Moves line) p q) :
    q.Covered P line := by
  induction hwalk with
  | refl => exact hp
  | tail _ hmove ih => exact covered_of_moves hengine hcuts ih hmove

/-! ### At the end -/

/-- An end at a place gives the rest of the line to the states that are open there. -/
theorem partition_finish (hend : P line.utf8ByteSize) (ending : Ending) {p : Place}
    (hp : p.Covered P line) :
    Partition P 0 line.utf8ByteSize (finish line.utf8ByteSize ending p).tokens :=
  hp.partition.append (.stretch hp.inside hp.cut hend p.stack)

/-- So does an end at a match that repeats. -/
theorem partition_of_closes (hengine : t.engine.StaysInLine) (hcuts : t.engine.CutsAt line P)
    (hend : P line.utf8ByteSize) {p : Place} (hp : p.Covered P line) {run : LineRun}
    (hclose : t.Closes line p run) : Partition P 0 line.utf8ByteSize run.tokens := by
  cases hclose with
  | noMatch h => exact partition_finish hend .noMatch hp
  | repeated c hc hr =>
    obtain ⟨-, hmatch, hinside⟩ := span_of_verdict hengine hc
    have hcut := cutAt_of_verdict hcuts hp.cut hc
    have hrest : Partition P c.found.span.start line.utf8ByteSize
        (stretch c.found.span.start line.utf8ByteSize p.stack) :=
      .stretch (hmatch.trans hinside) hcut.1.1 hend p.stack
    show Partition P 0 _ (p.tokens ++ (_ ++ _))
    rw [← List.append_assoc]
    exact (partition_of_verdict hengine hcuts hp hc).append hrest

/-- The tokens of a run cover the line, and cut it where the engine does. -/
theorem partition_of_line (hengine : t.engine.StaysInLine) (hcuts : t.engine.CutsAt line P)
    (hfirst : P 0) (hend : P line.utf8ByteSize) {stack : StateStack} {cache : PatternCache M}
    (hcache : t.engine.Coherent cache) {run : LineRun}
    (h : ((t.line line stack).run cache).result = .ok run) :
    Partition P 0 line.utf8ByteSize run.tokens := by
  have hp : (Place.first stack).Covered P line := ⟨Nat.zero_le _, hfirst, .nil P 0⟩
  rcases exists_walk_of_line hengine.searchesForward hcache h with rfl | ⟨q, hwalk, hclose | rfl⟩
  · exact partition_finish hend .tooLong hp
  · exact partition_of_closes hengine hcuts hend (covered_of_walk hengine hcuts hp hwalk) hclose
  · exact partition_finish hend .astray (covered_of_walk hengine hcuts hp hwalk)

/-- With an engine that stays in the line, whenever a line comes to tokens, from whatever stack and
after whatever calls, they follow each other from the beginning of the line to its end, none of
them empty, and there are none only for the empty line.  If the engine cuts the line between
characters only, every token has a text, and the texts make up the line. -/
theorem tokens_cover_line (hengine : t.engine.StaysInLine) (calls : List Call) (stack : StateStack)
    {run : LineRun} (h : ((t.line line stack).run (t.cacheAfter calls)).result = .ok run) :
    Tiles 0 line.utf8ByteSize (run.tokens.map Token.span) ∧
    (run.tokens = [] ↔ line = "") ∧
    (t.engine.CutsAt line (IsCharBoundary line) →
      ∃ texts : List String, run.tokens.map (fun token => token.span.text? line) = texts.map some ∧
        String.join texts = line) := by
  have hcoherent := t.coherent_cacheAfter calls
  -- Nothing is asked of the places here, so that any groups will do.
  have hany : t.engine.CutsAt line fun _ => True :=
    fun _ _ _ _ _ => ⟨⟨trivial, trivial⟩, fun _ _ _ _ => ⟨trivial, trivial⟩⟩
  have htiles := (partition_of_line hengine hany trivial trivial hcoherent h).tiles
  refine ⟨htiles, ?_, fun hcuts => ?_⟩
  · rw [← List.map_eq_nil_iff (f := Token.span), htiles.eq_nil_iff, eq_comm,
      String.utf8ByteSize_eq_zero_iff]
  · have hpartition := partition_of_line hengine hcuts String.Pos.Raw.isValid_zero
      String.Pos.Raw.isValid_rawEndPos hcoherent h
    obtain ⟨texts, htexts, hjoin⟩ :=
      exists_texts_of_tiles [] line.toList rfl hpartition.tiles fun s hs => by
        obtain ⟨token, htoken, rfl⟩ := List.mem_map.mp hs
        exact (hpartition.cuts token htoken).2
    rw [List.map_map] at htexts
    exact ⟨texts, htexts, by rw [hjoin, String.ofList_toList]⟩

/-- A region in brackets, and a pattern that matches without text in front of a `b`. -/
def bracketed : Tokenizer Scripted.NoEntry (List Scripted.Entry) where
  grammar := ⟨#[⟨.container, some (.ofString "text"), [1, 2]⟩,
    ⟨.region ⟨"[(]", "[)]", .ofList [(1, .ofString "punctuation")], .none, .none⟩,
      some (.ofString "group"), []⟩,
    ⟨.plain "(?=b)" .none, none, []⟩], 0⟩
  engine := Scripted.engine
    [("[(]", [⟨⟨⟨2, 3⟩, [some ⟨0, 3⟩]⟩, some "é(a)b", none⟩]),
      ("[)]", [⟨⟨⟨4, 5⟩, []⟩, some "é(a)b", none⟩]),
      ("(?=b)", [⟨⟨⟨5, 5⟩, []⟩, some "é(a)b", none⟩])]
  limit := none

/-- Its tokens for the line `é(a)b`, where the match without text is found twice. -/
theorem tokens_cover_bracketed_line :
    bracketed.engine.StaysInLine ∧
    bracketed.engine.CutsAt "é(a)b" (IsCharBoundary "é(a)b") ∧
    ∃ run, ((bracketed.line "é(a)b" (.initial bracketed.grammar)).run
        (bracketed.cacheAfter [.line "" (.initial bracketed.grammar)])).result = .ok run ∧
      run.tokens.map Token.span = [⟨0, 2⟩, ⟨2, 3⟩, ⟨3, 4⟩, ⟨4, 5⟩, ⟨5, 6⟩] ∧
      Tiles 0 "é(a)b".utf8ByteSize (run.tokens.map Token.span) ∧
      ∃ texts : List String,
        run.tokens.map (fun token => token.span.text? "é(a)b") = texts.map some ∧
          String.join texts = "é(a)b" := by
  have hengine : bracketed.engine.StaysInLine := Scripted.staysInLine (by decide)
  have hcuts : bracketed.engine.CutsAt "é(a)b" (IsCharBoundary "é(a)b") :=
    Scripted.cutsAt (by decide)
  have hspans : (((bracketed.line "é(a)b" (.initial bracketed.grammar)).run
      (bracketed.cacheAfter [.line "" (.initial bracketed.grammar)])).result.map
        fun run => run.tokens.map Token.span) =
      .ok [⟨0, 2⟩, ⟨2, 3⟩, ⟨3, 4⟩, ⟨4, 5⟩, ⟨5, 6⟩] := by
    cbv
  cases hrun : ((bracketed.line "é(a)b" (.initial bracketed.grammar)).run
      (bracketed.cacheAfter [.line "" (.initial bracketed.grammar)])).result with
  | error e =>
    rw [hrun] at hspans
    cases hspans
  | ok run =>
    rw [hrun] at hspans
    obtain ⟨htiles, -, htexts⟩ := tokens_cover_line hengine _ _ hrun
    exact ⟨hengine, hcuts, run, rfl, Except.ok.inj hspans, htiles, htexts hcuts⟩

end Tokenizer

end LineScopes
