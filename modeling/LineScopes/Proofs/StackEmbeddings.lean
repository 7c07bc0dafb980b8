/-
Stacks in larger stacks.

Where scopes are opened further in, or named more precisely, a selector without negations goes on
to select the stack: the scopes that it consumed before are still there, in the same order.  An
anchor is kept as well if the scope at its end of the stack stays at that end.

* `Embeds` — the scopes of one stack are found in another one;
* `Expression.isPositive` — there is no negation in an expression;
* `Expression.consumes_map_of_embeds` — what is consumed in a stack can be consumed in one that
  it embeds into, at the depths where the scopes are found again;
* `positive_selectors_select_embeddings` — so what is selected stays selected.
-/
import LineScopes.Proofs.Consumption
import LineScopes.Proofs.NamePrefixes
import Mathlib.Data.List.Forall2

namespace LineScopes

/-! ### Embeddings -/

/-- The scopes of `s` are found in `t`, the one at depth `i` at depth `f i`: in the same order, and
each as it was or more specific. -/
structure Embeds (f : Nat → Nat) (s t : List ScopeName) : Prop where
  strict : ∀ {i j : Nat}, i < j → j < s.length → f i < f j
  refines : ∀ {i : Nat} {scope : ScopeName}, s[i]? = some scope →
    ∃ refined : ScopeName, t[f i]? = some refined ∧ scope.parts <+: refined.parts

namespace Embeds

/-- The empty stack is found anywhere. -/
theorem of_nil (f : Nat → Nat) (t : List ScopeName) : Embeds f [] t where
  strict _ hj := absurd hj (Nat.not_lt_zero _)
  refines h := by simp at h

/-- A stack is found where its scopes are made more specific and others are pushed. -/
theorem of_forall₂ {s t : List ScopeName}
    (h : List.Forall₂ (fun scope refined : ScopeName => scope.parts <+: refined.parts) s t)
    (more : List ScopeName) : Embeds id s (t ++ more) where
  strict hij _ := hij
  refines := by
    intro i scope hscope
    obtain ⟨hi, rfl⟩ := List.getElem?_eq_some_iff.mp hscope
    have hi' : i < t.length := h.length_eq ▸ hi
    refine ⟨t[i], ?_, h.get hi hi'⟩
    rw [id, List.getElem?_append_left hi', List.getElem?_eq_getElem hi']

theorem lt_length {f : Nat → Nat} {s t : List ScopeName} (h : Embeds f s t) {i : Nat}
    (hi : i < s.length) : f i < t.length := by
  obtain ⟨refined, hrefined, -⟩ := h.refines (List.getElem?_eq_getElem hi)
  exact (List.getElem?_eq_some_iff.mp hrefined).1

/-- The scopes of `s` beyond the bound `n` are found beyond the bound `n'`. -/
def Carries (f : Nat → Nat) (s : List ScopeName) (n n' : Nat) : Prop :=
  ∀ i, n ≤ i → i < s.length → n' ≤ f i

theorem carries_zero (f : Nat → Nat) (s : List ScopeName) (n : Nat) : Carries f s n 0 :=
  fun _ _ _ => Nat.zero_le _

/-- Beyond the scopes at some depths of `s` lie the scopes beyond those that they become. -/
theorem carries_nextAfter {f : Nat → Nat} {s t : List ScopeName} (h : Embeds f s t) {n n' : Nat}
    (hn : Carries f s n n') (depths : List Nat) :
    Carries f s (nextAfter n depths) (nextAfter n' (depths.map f)) := by
  intro i hle hi
  cases hlast : depths.getLast? with
  | none =>
    -- Nothing was consumed, and the bounds are still those from before.
    obtain rfl := List.getLast?_eq_none_iff.mp hlast
    exact hn i hle hi
  | some j =>
    simp only [nextAfter, hlast, List.getLast?_map, Option.map_some, Option.elim_some] at hle ⊢
    exact h.strict hle hi

end Embeds

/-! ### Expressions without negations -/

namespace Expression

mutual

/-- Whether there is no negation in the expression. -/
def isPositive : Expression → Bool
  | .name _ => true
  | .not _ => false
  | .all es => arePositive es
  | .any es => arePositive es

/-- Whether there is no negation in any of the expressions. -/
def arePositive : List Expression → Bool
  | [] => true
  | e :: es => e.isPositive && arePositive es

end

variable {f : Nat → Nat} {s t : List ScopeName}

mutual

/-- What an expression without negations consumes is found again in a stack that embeds the
first one. -/
theorem consumes_map_of_embeds (h : Embeds f s t) {n n' : Nat}
    (hn : Embeds.Carries f s n n') {depths : List Nat} :
    ∀ e : Expression, e.isPositive = true →
      e.Consumes .general s n depths → e.Consumes .general t n' (depths.map f)
  | .name m, _, hconsumes => by
    obtain ⟨i, scope, rfl, hle, hscope, haccepts⟩ := hconsumes
    obtain ⟨refined, hrefined, hparts⟩ := h.refines hscope
    have hi : i < s.length := (List.getElem?_eq_some_iff.mp hscope).1
    exact ⟨f i, refined, rfl, hn i hle hi, hrefined,
      ScopeName.isPrefixOf_trans haccepts (ScopeName.isPrefixOf_iff.mpr hparts)⟩
  | .not e, hpos, _ => by
    cases hpos
  | .all es, hpos, hconsumes => consumesAll_map_of_embeds h hn es hpos hconsumes
  | .any es, hpos, hconsumes => consumesAny_map_of_embeds h hn es hpos hconsumes

/-- So is what several of them consume one after the other. -/
theorem consumesAll_map_of_embeds (h : Embeds f s t) {n n' : Nat}
    (hn : Embeds.Carries f s n n') {depths : List Nat} :
    ∀ es : List Expression, arePositive es = true →
      ConsumesAll .general s n depths es → ConsumesAll .general t n' (depths.map f) es
  | [], _, hconsumes => by
    obtain rfl : depths = [] := hconsumes
    rfl
  | e :: es, hpos, hconsumes => by
    obtain ⟨first, rest, rfl, hfirst, hrest⟩ := hconsumes
    obtain ⟨he, hes⟩ := Bool.and_eq_true_iff.mp hpos
    exact ⟨first.map f, rest.map f, List.map_append, consumes_map_of_embeds h hn e he hfirst,
      consumesAll_map_of_embeds h (h.carries_nextAfter hn first) es hes hrest⟩

/-- And what any of them consumes. -/
theorem consumesAny_map_of_embeds (h : Embeds f s t) {n n' : Nat}
    (hn : Embeds.Carries f s n n') {depths : List Nat} :
    ∀ es : List Expression, arePositive es = true →
      ConsumesAny .general s n depths es → ConsumesAny .general t n' (depths.map f) es
  | [], _, hconsumes => by
    cases hconsumes
  | e :: es, hpos, hconsumes => by
    obtain ⟨he, hes⟩ := Bool.and_eq_true_iff.mp hpos
    rcases hconsumes with hconsumes | hconsumes
    · exact .inl (consumes_map_of_embeds h hn e he hconsumes)
    · exact .inr (consumesAny_map_of_embeds h hn es hes hconsumes)

end

end Expression

/-! ### Anchors -/

/-- The scope at the end of `s` at which the anchor holds is found at the same end of `t`. -/
def Anchor.KeptBy (f : Nat → Nat) (s t : List ScopeName) : Anchor → Prop
  | .free => True
  | .left => f 0 = 0
  | .right => f (s.length - 1) = t.length - 1

/-- What an anchor allows in a stack it allows in another one, if it is kept. -/
theorem Anchor.allows_map_of_keptBy {f : Nat → Nat} {s t : List ScopeName} (h : Embeds f s t)
    {a : Anchor} (hkept : a.KeptBy f s t) {depths : List Nat} (hallows : a.Allows s.length depths) :
    a.Allows t.length (depths.map f) := by
  cases a with
  | free => trivial
  | left =>
    rcases hallows with rfl | hhead
    · exact .inl rfl
    · right
      rw [List.head?_map, hhead, Option.map_some, hkept]
  | right =>
    rcases hallows with rfl | ⟨i, hlast, hi⟩
    · exact .inl rfl
    · right
      refine ⟨f i, by rw [List.getLast?_map, hlast, Option.map_some], ?_⟩
      have hlt := h.lt_length (i := i) (by omega)
      have hinnermost : f (s.length - 1) = t.length - 1 := hkept
      obtain rfl : i = s.length - 1 := by omega
      omega

/-- The empty stack is found where every anchor is kept. -/
theorem Anchor.exists_keptBy_nil (a : Anchor) (t : List ScopeName) : ∃ f, a.KeptBy f [] t := by
  cases a with
  | free => exact ⟨id, trivial⟩
  | left => exact ⟨id, rfl⟩
  | right => exact ⟨fun _ => t.length - 1, rfl⟩

/-! ### Selection -/

variable {f : Nat → Nat} {s t : List ScopeName}

theorem Expression.selects_of_embeds (h : Embeds f s t) {e : Expression}
    (hpos : e.isPositive = true) (hs : e.selects .general s = true) : e.selects .general t = true := by
  rw [(selects_iff_consumes _ _).1] at hs ⊢
  obtain ⟨depths, hconsumes⟩ := hs
  exact ⟨depths.map f, e.consumes_map_of_embeds h (Embeds.carries_zero f s 0) hpos hconsumes⟩

theorem Alternative.selects_of_embeds (h : Embeds f s t) {a : Alternative}
    (hpos : a.expression.isPositive = true) (hkept : s = [] ∨ a.anchor.KeptBy f s t)
    (hs : a.selects .general s = true) : a.selects .general t = true := by
  -- For the empty stack, the map may be changed to one that keeps the anchor.
  obtain ⟨g, hg, hkept⟩ : ∃ g, Embeds g s t ∧ a.anchor.KeptBy g s t := by
    rcases hkept with rfl | hkept
    · obtain ⟨g, hkept⟩ := a.anchor.exists_keptBy_nil t
      exact ⟨g, .of_nil g t, hkept⟩
    · exact ⟨f, h, hkept⟩
  rw [(selects_iff_consumes _ _).2.1] at hs ⊢
  obtain ⟨depths, hconsumes, hallows⟩ := hs
  have hmap := a.expression.consumes_map_of_embeds hg (Embeds.carries_zero g s 0) hpos hconsumes
  exact ⟨depths.map g, hmap, a.anchor.allows_map_of_keptBy hg hkept hallows⟩

theorem Selector.selects_of_embeds (h : Embeds f s t) {selector : Selector}
    (hall : ∀ a ∈ selector.alternatives,
      a.expression.isPositive = true ∧ (s = [] ∨ a.anchor.KeptBy f s t))
    (hs : selector.selects .general s = true) : selector.selects .general t = true := by
  rw [(selects_iff_consumes _ _).2.2] at hs ⊢
  obtain ⟨a, ha, hselects⟩ := hs
  obtain ⟨hpos, hkept⟩ := hall a ha
  exact ⟨a, ha, a.selects_of_embeds h hpos hkept hselects⟩

/-- Let a stack embed into another one.  An expression without negations that selects the former
selects the latter.  Behind an anchor it does so as well if the scope at that end of the former
stack is found at the same end of the latter, or if the former is empty; and so does a selector, if
this holds of its alternatives.  In particular, a selector with neither anchors nor negations goes
on to select a stack whose scopes become more specific and on which others are pushed. -/
theorem positive_selectors_select_embeddings (h : Embeds f s t) :
    (∀ e : Expression, e.isPositive = true →
      e.selects .general s = true → e.selects .general t = true) ∧
    (∀ a : Alternative, a.expression.isPositive = true → s = [] ∨ a.anchor.KeptBy f s t →
      a.selects .general s = true → a.selects .general t = true) ∧
    (∀ selector : Selector,
      (∀ a ∈ selector.alternatives,
        a.expression.isPositive = true ∧ (s = [] ∨ a.anchor.KeptBy f s t)) →
      selector.selects .general s = true → selector.selects .general t = true) ∧
    ∀ selector : Selector,
      (∀ a ∈ selector.alternatives, a.anchor = .free ∧ a.expression.isPositive = true) →
      selector.selects .general s = true → ∀ refined more : List ScopeName,
        List.Forall₂ (fun scope scope' : ScopeName => scope.parts <+: scope'.parts) s refined →
        selector.selects .general (refined ++ more) = true := by
  refine ⟨fun e hpos => e.selects_of_embeds h hpos, fun a => a.selects_of_embeds h,
    fun selector => selector.selects_of_embeds h, ?_⟩
  intro selector hplain hs refined more hrefined
  refine selector.selects_of_embeds (.of_forall₂ hrefined more) (fun a ha => ?_) hs
  obtain ⟨hfree, hpos⟩ := hplain a ha
  exact ⟨hpos, .inr (by rw [hfree]; trivial)⟩

/-- A string in a program, and the same in a document around it.  What ends with the innermost
scope still does; what begins with the outermost one does no longer, since that one is another. -/
theorem positive_selectors_select_embeddings_in_document :
    let s := [ScopeName.ofString "source.rust", .ofString "string"]
    let t := [ScopeName.ofString "text.html", .ofString "source.rust.embedded", .ofString "meta",
      .ofString "string.quoted"]
    let e : Expression := .all [.name (.ofString "source"),
      .any [.name (.ofString "comment"), .name (.ofString "string")]]
    Embeds (fun i => 2 * i + 1) s t ∧ e.isPositive = true ∧
      Alternative.selects .general s ⟨.right, e⟩ = true ∧
      Alternative.selects .general t ⟨.right, e⟩ = true ∧
      Alternative.selects .general s ⟨.left, e⟩ = true ∧
      Alternative.selects .general t ⟨.left, e⟩ = false ∧
      Selector.selects .general (s ++ [.ofString "keyword"]) ⟨[⟨.free, e⟩]⟩ = true := by
  intro s t e
  have h : Embeds (fun i => 2 * i + 1) s t := by
    refine ⟨fun hij _ => by omega, fun {i scope} hscope => ?_⟩
    match i with
    | 0 =>
      obtain rfl := Option.some.inj hscope
      exact ⟨_, rfl, by decide +kernel⟩
    | 1 =>
      obtain rfl := Option.some.inj hscope
      exact ⟨_, rfl, by decide +kernel⟩
    | i + 2 => simp [s] at hscope
  obtain ⟨-, halternative, -, hpushed⟩ := positive_selectors_select_embeddings h
  have hright : Alternative.selects .general s ⟨.right, e⟩ = true := by decide +kernel
  have hplain : Selector.selects .general s ⟨[⟨.free, e⟩]⟩ = true := by decide +kernel
  have hsame : List.Forall₂ (fun scope scope' : ScopeName => scope.parts <+: scope'.parts) s s :=
    .cons List.prefix_rfl (.cons List.prefix_rfl .nil)
  exact ⟨h, rfl, hright, halternative ⟨.right, e⟩ rfl (.inr rfl) hright, by decide +kernel,
    by decide +kernel, hpushed ⟨[⟨.free, e⟩]⟩ (by simp [e, Expression.isPositive,
      Expression.arePositive]) hplain s _ hsame⟩

end LineScopes
