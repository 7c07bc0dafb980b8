/-
The scopes of a match lie on those of the stack.

A match gives its text to a state.  Its tokens are the pieces that its groups make of it,
and all of these lie on the scopes of the states that are open then, that state included.

* `Token.mapScopes` — a token with its scopes changed, and `join_map`: joining neighbours
  does not see a change that tells different scopes apart;
* `Layers.groupTokens` — the pieces with the scopes of the groups alone;
* `StateStack.lay` — tokens laid on the scopes of a stack; `matchTokens_eq_lay` and
  `stretch_eq_lay` say that all tokens of a line are laid on some stack.
-/
import LineScopes.Proofs.Tiling

namespace LineScopes

/-- The token with its scopes changed. -/
def Token.mapScopes (f : List ScopeName → List ScopeName) (t : Token) : Token :=
  { t with scopes := f t.scopes }

namespace Layers

/-- Joining neighbours does not see a change of the scopes that tells different ones apart. -/
theorem join_map {f : List ScopeName → List ScopeName} (hf : Function.Injective f)
    (ts : List Token) :
    join (ts.map (Token.mapScopes f)) = (join ts).map (Token.mapScopes f) := by
  induction ts with
  | nil => rfl
  | cons t ts ih =>
    rw [List.map_cons, join, join, ih]
    cases hjoin : join ts with
    | nil => rfl
    | cons u us =>
      have hiff : (t.mapScopes f).scopes = (u.mapScopes f).scopes ↔ t.scopes = u.scopes :=
        hf.eq_iff
      show (if _ then _ else _) = List.map _ (if _ then _ else _)
      by_cases hmeet : t.span.stop = u.span.start ∧ t.scopes = u.scopes
      · rw [if_pos hmeet, if_pos ⟨hmeet.1, hiff.mpr hmeet.2⟩]
        rfl
      · rw [if_neg hmeet, if_neg fun h => hmeet ⟨h.1, hiff.mp h.2⟩]
        rfl

/-- The pieces of a match with the scopes of its groups alone. -/
def groupTokens (found : Match) (captures : Captures) : List Token :=
  tokens [] (layers found none captures)

/-- The layer of the match itself lies over every piece of it, under the layers of the groups. -/
theorem scopesOver_layers {found : Match} (hle : found.span.start ≤ found.span.stop)
    (ambient : List ScopeName) (bottom : Option ScopeName) (captures : Captures) {s : Span}
    (hs : s ∈ between (bounds (layers found bottom captures))) :
    scopesOver ambient (layers found bottom captures) s =
      (ambient ++ bottom.toList) ++ scopesOver [] (layers found none captures) s := by
  obtain ⟨hstart, hstop⟩ := mem_of_mem_between hs
  have hcovers : found.span.covers s = true := by
    have hfirst := (bounds_layers hle hstart).1.1
    have hlast := (bounds_layers hle hstop).1.2
    simp [Span.covers, hfirst, hlast]
  cases bottom with
  | none => simp [scopesOver, layers, hcovers]
  | some name => simp [scopesOver, layers, hcovers]

/-- So the tokens of a match are those of its groups, laid on what is below them. -/
theorem tokens_layers {found : Match} (hle : found.span.start ≤ found.span.stop)
    (ambient : List ScopeName) (bottom : Option ScopeName) (captures : Captures) :
    tokens ambient (layers found bottom captures) =
      (groupTokens found captures).map (Token.mapScopes (ambient ++ bottom.toList ++ ·)) := by
  have hpieces :
      (between (bounds (layers found bottom captures))).map
          (fun s => (⟨s, scopesOver ambient (layers found bottom captures) s⟩ : Token)) =
        ((between (bounds (layers found none captures))).map
          (fun s => (⟨s, scopesOver [] (layers found none captures) s⟩ : Token))).map
            (Token.mapScopes (ambient ++ bottom.toList ++ ·)) := by
    rw [List.map_map]
    -- Where the layers begin and end does not depend on the scope of the match.
    refine List.map_congr_left fun s hs => ?_
    rw [scopesOver_layers hle ambient bottom captures hs]
    rfl
  rw [tokens, hpieces, join_map fun _ _ h => List.append_cancel_left h]
  rfl

end Layers

/-! ### Tokens on a stack -/

namespace StateStack

theorem scopeNames_eq (s : StateStack) :
    s.scopeNames = s.ambientScopeNames ++ s.top.scope.toList := by
  rw [scopeNames, ← s.dropLast_states_append_top, List.filterMap_append, ambientScopeNames]
  cases h : s.top.scope <;> simp [h]

@[simp] theorem scopeNames_push (s : StateStack) (state : OpenState) :
    (s.push state).scopeNames = s.scopeNames ++ state.scope.toList := by
  rw [scopeNames, states_push, List.filterMap_append, scopeNames]
  cases h : state.scope <;> simp [h]

/-- Tokens laid on the scopes of a stack. -/
def lay (s : StateStack) (ts : List Token) : List Token :=
  ts.map (Token.mapScopes (s.scopeNames ++ ·))

theorem scopeNames_prefix_of_mem_lay {s : StateStack} {ts : List Token} {token : Token}
    (h : token ∈ s.lay ts) : s.scopeNames <+: token.scopes := by
  obtain ⟨t, -, rfl⟩ := List.mem_map.mp h
  exact List.prefix_append _ _

end StateStack

/-- The tokens of a match are those of its groups, laid on the stack. -/
theorem matchTokens_eq_lay {found : Match} (hle : found.span.start ≤ found.span.stop)
    (captures : Captures) (stack : StateStack) :
    matchTokens found captures stack = stack.lay (Layers.groupTokens found captures) := by
  rw [matchTokens, Layers.tokens_layers hle, ← stack.scopeNames_eq]
  rfl

/-- Text that nothing matched is laid on the stack as it is. -/
theorem stretch_eq_lay (start stop : Nat) (stack : StateStack) :
    stretch start stop stack = stack.lay (if start < stop then [⟨⟨start, stop⟩, []⟩] else []) := by
  unfold stretch
  split
  · simp [StateStack.lay, Token.mapScopes]
  · rfl

end LineScopes
