/-
Stacks that are saved between lines.

A saved stack has the text of a name where the stack has the name.  Reading it splits the text
at its dots, which gives the name back unless a part of it has a dot inside.  A tokenizer goes
on from what is read as it would have from the stack that was saved.

* `ScopeName.resplit` — a name written out and read;
* `StateStack.load_save` — a stack that was saved and read has its names resplit, and
  `load_save_eq_iff` says when it is the same stack;
* `tokenizing_from_saved_stack` — what becomes of a line that begins with what was read.
-/
import LineScopes.Proofs.ParallelRuns
import LineScopes.Proofs.WrittenNames

namespace LineScopes

/-! ### Names -/

namespace ScopeName

/-- The name that the text of a name writes. -/
def resplit (n : ScopeName) : ScopeName := .ofString n.toText

theorem resplit_eq_self_iff {n : ScopeName} :
    n.resplit = n ↔ ∀ part ∈ n.parts, '.' ∉ part.toList := by
  refine ⟨fun h part hpart hdot => ?_, ofString_toText⟩
  rw [← h] at hpart
  exact (mem_of_mem_parts_ofString hpart hdot).2 rfl

theorem resplit_resplit (n : ScopeName) : n.resplit.resplit = n.resplit :=
  ofString_toText_ofString n.toText

end ScopeName

/-! ### Stacks -/

theorem OpenState.load_save (s : OpenState) : s.save.load = s.rename ScopeName.resplit := by
  simp only [save, SavedState.load, rename, Option.map_map]
  rfl

theorem OpenState.rename_resplit_eq_iff {s : OpenState} :
    s.rename ScopeName.resplit = s ↔
      ∀ name ∈ s.scope, ∀ part ∈ name.parts, '.' ∉ part.toList := by
  obtain ⟨rule, scope, closing⟩ := s
  cases scope with
  | none => simp [rename]
  | some name => simp [rename, ScopeName.resplit_eq_self_iff]

namespace StateStack

theorem load_save (s : StateStack) : s.save.load = s.rename ScopeName.resplit := by
  simp only [save, SavedStack.load, rename, List.map_map, OpenState.load_save]
  exact congrArg _ (List.map_congr_left fun state _ => state.load_save)

/-- A stack is read as it was saved if no part of its names has a dot inside, and only then. -/
theorem load_save_eq_iff {s : StateStack} :
    s.save.load = s ↔
      ∀ state ∈ s.states, ∀ name ∈ state.scope, ∀ part ∈ name.parts, '.' ∉ part.toList := by
  have hnested : s.nested.map (OpenState.rename ScopeName.resplit) = s.nested ↔
      ∀ state ∈ s.nested, state.rename ScopeName.resplit = state := by
    conv_lhs => rw [← List.map_id s.nested, List.map_map]
    exact List.map_inj_left
  rw [load_save, states, List.forall_mem_cons]
  calc s.rename ScopeName.resplit = s
      ↔ s.root.rename ScopeName.resplit = s.root ∧
          s.nested.map (OpenState.rename ScopeName.resplit) = s.nested := by
        obtain ⟨root, nested⟩ := s
        rw [rename, mk.injEq]
    _ ↔ _ := by
        simp only [hnested, OpenState.rename_resplit_eq_iff]

/-- What was read once is read as it is saved again. -/
theorem load_save_load_save (s : StateStack) : s.save.load.save.load = s.save.load := by
  have hname : ScopeName.resplit ∘ ScopeName.resplit = ScopeName.resplit :=
    funext ScopeName.resplit_resplit
  simp [load_save, rename, OpenState.rename, hname]

/-- Opening and closing states keeps stacks the same as far as they are saved. -/
theorem congruence_load_save :
    Congruence (fun _ => True) fun s s' => s.save.load = s'.save.load where
  top {s s'} h := by
    rw [load_save, load_save] at h
    rw [← top_bare, ← top_bare, ← s.bare_rename ScopeName.resplit, h, bare_rename]
  push h state := by
    rw [load_save, load_save] at h ⊢
    rw [rename_push, rename_push, h]
  pop h _ := by
    rw [load_save, load_save] at h ⊢
    rw [rename_pop, rename_pop, h]

end StateStack

/-! ### Lines -/

namespace Tokenizer

variable {ε M : Type} {t : Tokenizer ε M}

/-- A stack that is saved and read again is the same if and only if no part of its names has a dot
inside.  In any case it has as many states, with the same rules and closing patterns, and for each
name the name that the text of that name writes.  From what is read, whatever the calls before, a
line fails with the same error as from the stack that was saved, or comes to tokens with the same
spans and as many names, of which those in the same place are written alike, and leaves the same
rules open, with the same closing patterns. -/
theorem tokenizing_from_saved_stack (hengine : t.engine.StaysInLine) (s : StateStack) :
    (s.save.load = s ↔
      ∀ state ∈ s.states, ∀ name ∈ state.scope, ∀ part ∈ name.parts, '.' ∉ part.toList) ∧
    List.Forall₂ (fun a b => b.rule = a.rule ∧ b.closing = a.closing ∧
      b.scope = a.scope.map ScopeName.resplit) s.states s.save.load.states ∧
    ∀ (calls calls' : List Call) (line : String),
      Agree (fun run run' =>
          List.Forall₂ (fun a b => a.span = b.span ∧
            a.scopes.map ScopeName.resplit = b.scopes.map ScopeName.resplit)
            run.tokens run'.tokens ∧
          run.stack.bare = run'.stack.bare)
        ((t.line line s).run (t.cacheAfter calls)).result
        ((t.line line s.save.load).run (t.cacheAfter calls')).result := by
  refine ⟨StateStack.load_save_eq_iff, ?_, fun calls calls' line => ?_⟩
  · rw [StateStack.load_save, StateStack.states_rename, List.forall₂_map_right_iff]
    exact List.forall₂_same.mpr fun state _ => ⟨rfl, rfl, rfl⟩
  · have hline : t.engine.Alike _ (t.line line s) (t.line line s.save.load) :=
      alike_line_of_congruence hengine StateStack.congruence_load_save
        s.load_save_load_save.symm fun _ _ _ => trivial
    refine (hline _ _ (t.coherent_cacheAfter calls) (t.coherent_cacheAfter calls')).result.mono ?_
    rintro run run' ⟨hstack, htokens⟩
    refine ⟨htokens.imp ?_, ?_⟩
    · rintro a b ⟨hspan, s₁, s₂, above, hsaved, ha, hb⟩
      rw [StateStack.load_save, StateStack.load_save] at hsaved
      refine ⟨hspan, ?_⟩
      rw [ha, hb, List.map_append, List.map_append, ← StateStack.scopeNames_rename, hsaved,
        StateStack.scopeNames_rename]
    · rw [StateStack.load_save, StateStack.load_save] at hstack
      rw [← run.stack.bare_rename ScopeName.resplit, hstack, StateStack.bare_rename]

/-- A text whose name has a dot inside its only part. -/
def dotted : StateStack := ⟨⟨0, some (.ofParts ["text.html"]), none⟩, []⟩

/-- It is not read as it was saved, and the brackets in it are tokenized alike. -/
theorem tokenizing_from_saved_dotted :
    bracketed.engine.StaysInLine ∧ dotted.save.load ≠ dotted ∧
    ∃ run, ((bracketed.line "é(a)b" dotted.save.load).run (bracketed.cacheAfter [])).result =
        .ok run ∧
      run.tokens.map (fun token => (token.span, token.scopes.map ScopeName.resplit)) =
        [(⟨0, 2⟩, [.ofString "text.html"]),
          (⟨2, 3⟩, [.ofString "text.html", .ofString "group", .ofString "punctuation"]),
          (⟨3, 4⟩, [.ofString "text.html", .ofString "group"]),
          (⟨4, 5⟩, [.ofString "text.html", .ofString "group"]),
          (⟨5, 6⟩, [.ofString "text.html"])] := by
  have hengine : bracketed.engine.StaysInLine := Scripted.staysInLine (by decide)
  obtain ⟨hsaved, -, hlines⟩ := tokenizing_from_saved_stack hengine dotted
  have hview : ((bracketed.line "é(a)b" dotted).run (bracketed.cacheAfter [])).result.map
      (fun run => run.tokens.map fun token => (token.span, token.scopes.map ScopeName.resplit)) =
      .ok [(⟨0, 2⟩, [.ofString "text.html"]),
        (⟨2, 3⟩, [.ofString "text.html", .ofString "group", .ofString "punctuation"]),
        (⟨3, 4⟩, [.ofString "text.html", .ofString "group"]),
        (⟨4, 5⟩, [.ofString "text.html", .ofString "group"]),
        (⟨5, 6⟩, [.ofString "text.html"])] := by
    cbv
  refine ⟨hengine, fun h => ?_, ?_⟩
  · have hdots := hsaved.mp h dotted.root (by decide) (.ofParts ["text.html"]) rfl "text.html"
      (by decide)
    exact hdots (by decide)
  · obtain ⟨run, hr, hvalues⟩ := Scripted.exists_ok_of_map hview
    obtain ⟨run', hr', htokens, -⟩ := (hlines [] [] "é(a)b").exists_ok hr
    refine ⟨run', hr', ?_⟩
    rw [← hvalues]
    exact (map_eq_map_of_forall₂ (htokens.imp fun _ _ h => Prod.ext h.1 h.2)).symm

end Tokenizer

end LineScopes
