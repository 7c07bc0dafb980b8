/-
Grammars and stacks with their names taken away or changed.

* `bare` — without scope names and captures: what is left says which patterns are searched
  for, and what their matches open and close;
* `rename` — with every name replaced by another one;
* `plans_bare`, `plans_congr` — the plans for a stack depend on the bare grammar and on the
  bare innermost state alone, and `bare_stack_applyChoice`: so does what a match makes of the
  bare stack;
* `rename_applyChoice` — where different names stay different, a match has the same tokens
  and leaves the same stack, both renamed.
-/
import LineScopes.Proofs.Expansion
import LineScopes.Proofs.MatchScopes

namespace LineScopes

/-! ### Without names -/

/-- The delimiters without captures. -/
def Delimiters.bare (d : Delimiters) : Delimiters := ⟨d.opening, d.closing, .none, .none, .none⟩

/-- The kind without captures. -/
def RuleKind.bare : RuleKind → RuleKind
  | .plain pattern _ => .plain pattern .none
  | .reference target => .reference target
  | .container => .container
  | .region d => .region d.bare

/-- The rule without names. -/
def Rule.bare (r : Rule) : Rule := ⟨r.kind.bare, none, r.patterns⟩

/-- The grammar without names. -/
def Grammar.bare (g : Grammar) : Grammar := ⟨g.rules.map Rule.bare, g.root⟩

/-- The state without its scope. -/
def OpenState.bare (s : OpenState) : OpenState := ⟨s.rule, none, s.closing⟩

/-- The stack without scopes: the rules that are open, and their closing patterns. -/
def StateStack.bare (s : StateStack) : StateStack := ⟨s.root.bare, s.nested.map OpenState.bare⟩

/-! ### With other names -/

/-- The captures with other names. -/
def Captures.rename (f : ScopeName → ScopeName) (c : Captures) : Captures :=
  ⟨c.entries.map fun e => (e.1, f e.2), List.pairwise_map.mpr c.ascending⟩

/-- The delimiters with other names. -/
def Delimiters.rename (f : ScopeName → ScopeName) (d : Delimiters) : Delimiters :=
  ⟨d.opening, d.closing, d.ownOpeningCaptures.rename f, d.ownClosingCaptures.rename f,
    d.sharedCaptures.rename f⟩

/-- The kind with other names. -/
def RuleKind.rename (f : ScopeName → ScopeName) : RuleKind → RuleKind
  | .plain pattern captures => .plain pattern (captures.rename f)
  | .reference target => .reference target
  | .container => .container
  | .region d => .region (d.rename f)

/-- The rule with other names. -/
def Rule.rename (f : ScopeName → ScopeName) (r : Rule) : Rule :=
  ⟨r.kind.rename f, r.scope.map f, r.patterns⟩

/-- The grammar with other names. -/
def Grammar.rename (f : ScopeName → ScopeName) (g : Grammar) : Grammar :=
  ⟨g.rules.map (Rule.rename f), g.root⟩

/-- The state with another name. -/
def OpenState.rename (f : ScopeName → ScopeName) (s : OpenState) : OpenState :=
  ⟨s.rule, s.scope.map f, s.closing⟩

/-- The stack with other names. -/
def StateStack.rename (f : ScopeName → ScopeName) (s : StateStack) : StateStack :=
  ⟨s.root.rename f, s.nested.map (OpenState.rename f)⟩

/-- The token with other names. -/
def Token.rename (f : ScopeName → ScopeName) : Token → Token := Token.mapScopes (List.map f)

/-! ### Bare grammars -/

namespace Rule

@[simp] theorem delimiters?_bare (r : Rule) :
    r.bare.delimiters? = r.delimiters?.map Delimiters.bare := by
  obtain ⟨kind, scope, patterns⟩ := r
  cases kind <;> rfl

@[simp] theorem delimiters?_rename (f : ScopeName → ScopeName) (r : Rule) :
    (r.rename f).delimiters? = r.delimiters?.map (Delimiters.rename f) := by
  obtain ⟨kind, scope, patterns⟩ := r
  cases kind <;> rfl

@[simp] theorem bare_rename (f : ScopeName → ScopeName) (r : Rule) :
    (r.rename f).bare = r.bare := by
  obtain ⟨kind, scope, patterns⟩ := r
  cases kind <;> rfl

@[simp] theorem bare_bare (r : Rule) : r.bare.bare = r.bare := by
  obtain ⟨kind, scope, patterns⟩ := r
  cases kind <;> rfl

end Rule

namespace Grammar

@[simp] theorem rule?_bare (g : Grammar) (id : RuleId) :
    g.bare.rule? id = (g.rule? id).map Rule.bare := by
  simp [rule?, bare]

@[simp] theorem rule?_rename (f : ScopeName → ScopeName) (g : Grammar) (id : RuleId) :
    (g.rename f).rule? id = (g.rule? id).map (Rule.rename f) := by
  simp [rule?, rename]

@[simp] theorem size_bare (g : Grammar) : g.bare.size = g.size := by
  simp [size, bare]

@[simp] theorem bare_bare (g : Grammar) : g.bare.bare = g.bare := by
  have hrule : Rule.bare ∘ Rule.bare = Rule.bare := funext Rule.bare_bare
  simp [bare, hrule]

@[simp] theorem bare_rename (f : ScopeName → ScopeName) (g : Grammar) :
    (g.rename f).bare = g.bare := by
  have hrule : Rule.bare ∘ Rule.rename f = Rule.bare := funext (Rule.bare_rename f)
  simp [bare, rename, hrule]

theorem role?_bare (g : Grammar) (id : RuleId) : g.bare.role? id = g.role? id := by
  rw [role?, role?, rule?_bare, Option.map_map]
  congr 1
  funext rule
  obtain ⟨kind, scope, patterns⟩ := rule
  cases kind <;> rfl

/-- Rules that stand for the same expand to the same plans. -/
theorem expandPlans_congr {g g' : Grammar} (hrole : ∀ id, g'.role? id = g.role? id)
    (expanded work : List RuleId) : g'.expandPlans expanded work = g.expandPlans expanded work := by
  match work with
  | [] => rw [expandPlans_nil, expandPlans_nil]
  | id :: rest =>
    -- The recursion is that of `expand`: each rule is expanded once at most.
    rw [expandPlans_cons, expandPlans_cons, hrole]
    match h : g.role? id with
    | none => exact expandPlans_congr hrole expanded rest
    | some (.leaf p) => exact congrArg (p :: ·) (expandPlans_congr hrole expanded rest)
    | some (.inner children) =>
      by_cases hid : id ∈ expanded
      · simp only [hid, if_true]
        exact expandPlans_congr hrole expanded rest
      · have hlt := g.lt_unexpanded_of_role h hid
        simp only [hid, if_false]
        exact expandPlans_congr hrole (id :: expanded) (children ++ rest)
termination_by ((g.unexpanded expanded).length, work.length)

theorem closingPlan_bare (s : OpenState) (rule : Rule) :
    closingPlan s rule.bare = closingPlan s rule := by
  rw [closingPlan, closingPlan, Rule.delimiters?_bare]
  cases rule.delimiters? <;> rfl

/-- The names of a grammar have no part in the plans. -/
theorem plans_bare (g : Grammar) (s : StateStack) : g.bare.plans s = g.plans s := by
  cases h : g.rule? s.top.rule with
  | none =>
    have hbare : g.bare.rule? s.top.rule = none := by rw [rule?_bare, h, Option.map_none]
    rw [plans_of_missing h, plans_of_missing hbare]
  | some rule =>
    have hbare : g.bare.rule? s.top.rule = some rule.bare := by
      rw [rule?_bare, h, Option.map_some]
    rw [plans_of_rule h, plans_of_rule hbare, closingPlan_bare, expandPlans_congr g.role?_bare]
    rfl

/-- Of the stack, only the innermost state has, and of that its rule and its closing pattern. -/
theorem plans_congr (g : Grammar) {s s' : StateStack} (h : s.top.bare = s'.top.bare) :
    g.plans s = g.plans s' := by
  obtain ⟨hrule, -, hclosing⟩ := OpenState.mk.inj h
  rw [plans, plans, collect, collect, hrule]
  cases g.rule? s'.top.rule with
  | none => rfl
  | some rule =>
    dsimp only
    rw [closingPlan, closingPlan, hrule, hclosing]

end Grammar

/-! ### Bare stacks -/

namespace StateStack

@[simp] theorem bare_push (s : StateStack) (state : OpenState) :
    (s.push state).bare = s.bare.push state.bare := by
  simp [bare, push]

@[simp] theorem bare_pop (s : StateStack) : s.pop.bare = s.bare.pop := by
  simp [bare, pop]

@[simp] theorem bare_bare (s : StateStack) : s.bare.bare = s.bare := by
  have hstate : OpenState.bare ∘ OpenState.bare = OpenState.bare := rfl
  simp [bare, hstate]
  rfl

theorem top_bare (s : StateStack) : s.bare.top = s.top.bare := by
  rw [top, top, bare, List.getLast?_map]
  cases s.nested.getLast? <;> rfl

@[simp] theorem rename_push (f : ScopeName → ScopeName) (s : StateStack) (state : OpenState) :
    (s.push state).rename f = (s.rename f).push (state.rename f) := by
  simp [rename, push]

@[simp] theorem rename_pop (f : ScopeName → ScopeName) (s : StateStack) :
    s.pop.rename f = (s.rename f).pop := by
  simp [rename, pop]

theorem top_rename (f : ScopeName → ScopeName) (s : StateStack) :
    (s.rename f).top = s.top.rename f := by
  rw [top, top, rename, List.getLast?_map]
  cases s.nested.getLast? <;> rfl

@[simp] theorem bare_rename (f : ScopeName → ScopeName) (s : StateStack) :
    (s.rename f).bare = s.bare := by
  have hstate : OpenState.bare ∘ OpenState.rename f = OpenState.bare := rfl
  simp [bare, rename, hstate]
  rfl

@[simp] theorem states_rename (f : ScopeName → ScopeName) (s : StateStack) :
    (s.rename f).states = s.states.map (OpenState.rename f) := rfl

theorem scopeNames_rename (f : ScopeName → ScopeName) (s : StateStack) :
    (s.rename f).scopeNames = s.scopeNames.map f := by
  rw [scopeNames, states_rename, List.filterMap_map, scopeNames, List.map_filterMap]
  rfl

theorem ambientScopeNames_rename (f : ScopeName → ScopeName) (s : StateStack) :
    (s.rename f).ambientScopeNames = s.ambientScopeNames.map f := by
  rw [ambientScopeNames, states_rename, ← List.map_dropLast, List.filterMap_map,
    ambientScopeNames, List.map_filterMap]
  rfl

end StateStack

/-- What a match makes of a bare stack has nothing to do with names. -/
theorem bare_stack_applyChoice (g : Grammar) (line : String) (c : Choice) (s : StateStack) :
    (applyChoice g line c s).stack.bare = (applyChoice g.bare line c s.bare).stack := by
  have hopened : ∀ rule, (openedState rule line c).bare = openedState rule.bare line c := by
    intro rule
    rw [openedState, openedState, Rule.delimiters?_bare]
    cases rule.delimiters? <;> rfl
  rw [applyChoice, applyChoice, Grammar.rule?_bare]
  cases g.rule? c.rule with
  | none => rfl
  | some rule =>
    dsimp only [Option.map_some]
    rw [applyRule, applyRule, Rule.delimiters?_bare]
    cases c.kind with
    | plain => rfl
    | opening =>
      rw [← hopened]
      cases rule.delimiters? <;> exact StateStack.bare_push s _
    | closing => cases rule.delimiters? <;> exact s.bare_pop

/-! ### Renamed matches -/

/-- The layer with another name. -/
def Layers.Layer.rename (f : ScopeName → ScopeName) (l : Layer) : Layer := ⟨l.span, l.scope.map f⟩

namespace Layers

theorem layers_rename (f : ScopeName → ScopeName) (found : Match) (bottom : Option ScopeName)
    (captures : Captures) :
    layers found (bottom.map f) (captures.rename f) =
      (layers found bottom captures).map (Layer.rename f) := by
  have hgroup : ∀ e : Nat × ScopeName,
      groupLayer? found (e.1, f e.2) = (groupLayer? found e).map (Layer.rename f) := by
    intro e
    rw [groupLayer?, groupLayer?]
    cases found.group? e.1 with
    | none => rfl
    | some span =>
      dsimp only [Option.bind_some]
      split
      · rfl
      · rfl
  rw [layers, layers, List.map_cons, Captures.rename, List.filterMap_map, List.map_filterMap]
  exact congrArg _ (List.filterMap_congr fun e _ => hgroup e)

/-- Names have no part in where layers begin and end. -/
theorem bounds_rename (f : ScopeName → ScopeName) (ls : List Layer) :
    bounds (ls.map (Layer.rename f)) = bounds ls :=
  List.foldr_map

theorem scopesOver_rename (f : ScopeName → ScopeName) (ambient : List ScopeName) (ls : List Layer)
    (span : Span) :
    scopesOver (ambient.map f) (ls.map (Layer.rename f)) span =
      (scopesOver ambient ls span).map f := by
  rw [scopesOver, scopesOver, List.map_append, List.filter_map, List.filterMap_map,
    List.map_filterMap]
  rfl

/-- Where different names stay different, the same neighbours are joined. -/
theorem tokens_rename {f : ScopeName → ScopeName} (hf : Function.Injective f)
    (ambient : List ScopeName) (ls : List Layer) :
    tokens (ambient.map f) (ls.map (Layer.rename f)) =
      (tokens ambient ls).map (Token.rename f) := by
  -- Joining compares scopes, which is all that names are ever compared for.
  rw [tokens, tokens, Token.rename, ← join_map (List.map_injective_iff.mpr hf), bounds_rename,
    List.map_map]
  refine congrArg join (List.map_congr_left fun span _ => ?_)
  rw [scopesOver_rename]
  rfl

end Layers

theorem matchTokens_rename {f : ScopeName → ScopeName} (hf : Function.Injective f) (found : Match)
    (captures : Captures) (s : StateStack) :
    matchTokens found (captures.rename f) (s.rename f) =
      (matchTokens found captures s).map (Token.rename f) := by
  rw [matchTokens, matchTokens, ← Layers.tokens_rename hf, StateStack.ambientScopeNames_rename,
    StateStack.top_rename, ← Layers.layers_rename]
  rfl

theorem stretch_rename (f : ScopeName → ScopeName) (start stop : Nat) (s : StateStack) :
    stretch start stop (s.rename f) = (stretch start stop s).map (Token.rename f) := by
  unfold stretch
  split
  · rw [StateStack.scopeNames_rename]
    rfl
  · rfl

theorem Captures.isEmpty_rename (f : ScopeName → ScopeName) (c : Captures) :
    (c.rename f).isEmpty = c.isEmpty := by
  rw [isEmpty, rename, List.isEmpty_map, isEmpty]

namespace Delimiters

theorem openingCaptures_rename (f : ScopeName → ScopeName) (d : Delimiters) :
    (d.rename f).openingCaptures = d.openingCaptures.rename f := by
  simp only [openingCaptures, rename, Captures.isEmpty_rename]
  split
  · rfl
  · rfl

theorem closingCaptures_rename (f : ScopeName → ScopeName) (d : Delimiters) :
    (d.rename f).closingCaptures = d.closingCaptures.rename f := by
  simp only [closingCaptures, rename, Captures.isEmpty_rename]
  split
  · rfl
  · rfl

end Delimiters

theorem Rule.captures_rename (f : ScopeName → ScopeName) (r : Rule) :
    (r.rename f).captures = r.captures.rename f := by
  obtain ⟨kind, scope, patterns⟩ := r
  cases kind <;> rfl

/-- A match of a renamed rule has the tokens of the match, renamed, and leaves the stack that it
leaves, renamed. -/
theorem rename_applyChoice {f : ScopeName → ScopeName} (hf : Function.Injective f) (g : Grammar)
    (line : String) (c : Choice) (s : StateStack) :
    (applyChoice (g.rename f) line c (s.rename f)).tokens =
        (applyChoice g line c s).tokens.map (Token.rename f) ∧
      (applyChoice (g.rename f) line c (s.rename f)).stack =
        (applyChoice g line c s).stack.rename f := by
  rw [applyChoice, applyChoice, Grammar.rule?_rename]
  cases g.rule? c.rule with
  | none => exact ⟨rfl, rfl⟩
  | some rule =>
    have hopened : openedState (rule.rename f) line c = (openedState rule line c).rename f := by
      rw [openedState, openedState, Rule.delimiters?_rename]
      cases rule.delimiters? <;> rfl
    dsimp only [Option.map_some]
    rw [applyRule, applyRule, Rule.delimiters?_rename]
    cases c.kind with
    | plain =>
      refine ⟨?_, rfl⟩
      rw [Rule.captures_rename, ← matchTokens_rename hf, StateStack.rename_push]
      rfl
    | opening =>
      rw [hopened, ← StateStack.rename_push]
      cases rule.delimiters? with
      | none => exact ⟨rfl, rfl⟩
      | some d =>
        dsimp only [Option.map_some]
        rw [Delimiters.openingCaptures_rename, matchTokens_rename hf]
        exact ⟨rfl, rfl⟩
    | closing =>
      rw [← StateStack.rename_pop]
      cases rule.delimiters? with
      | none => exact ⟨rfl, rfl⟩
      | some d =>
        dsimp only [Option.map_some]
        rw [Delimiters.closingCaptures_rename, matchTokens_rename hf]
        exact ⟨rfl, rfl⟩

end LineScopes
