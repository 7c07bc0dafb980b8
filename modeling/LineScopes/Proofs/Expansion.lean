/-
Expanding references and containers.

While plans are collected, each reference and container is expanded once, so that
cyclic grammars come to an end.  A rule met again may have been cut short itself, by a
rule that was still being expanded.  That no plan is lost by this is shown against an
expansion that keeps only the current path in mind:

* `plansOnPath` — expands a rule wherever it is met, unless it is on the path from the
  open rule to where it is met;
* `Expands` — the derivation of what one list of rules expands to, and of the rules
  that are expanded afterwards;
* `Expands.eraseDups_append` — both expansions find the same plans in the same order of
  first occurrence;
* `plans_allowed` — every plan is one that its rule allows.

Design notes: the invariant is that of depth-first search.  Once a rule is finished,
that is expanded and no longer on the path, all rules listed in it are known: their
plans are found, or they are expanded themselves.
-/
import LineScopes.Proofs.ScriptedEngine

namespace LineScopes

/-! ### What a rule stands for -/

/-- The rule has what plans of a kind need: a pattern of its own, or a pair of delimiters. -/
def Rule.Allows (r : Rule) : PlanKind → Prop
  | .plain => ∃ pattern captures, r.kind = .plain pattern captures
  | .opening => ∃ d, r.delimiters? = some d
  | .closing => ∃ d, r.delimiters? = some d

/-- What a listed rule stands for: a plan, or the rules that take its place. -/
inductive Role where
  | leaf (p : Plan)
  | inner (children : List RuleId)

namespace Grammar

/-- What the rule at a position stands for; `none` if there is no such rule. -/
def role? (g : Grammar) (id : RuleId) : Option Role :=
  (g.rule? id).map fun rule =>
    match rule.kind with
    | .plain pattern _ => .leaf ⟨.plain, id, pattern, false⟩
    | .region d => .leaf ⟨.opening, id, d.opening, false⟩
    | .reference target => .inner [target]
    | .container => .inner rule.patterns

/-- The plans found by looking at the rules of the work list. -/
def expandPlans (g : Grammar) (expanded work : List RuleId) : List Plan :=
  (g.expand expanded work).filterMap Finding.plan?

@[simp] theorem expandPlans_nil (g : Grammar) (expanded : List RuleId) :
    g.expandPlans expanded [] = [] := by
  simp [expandPlans, expand]

theorem expandPlans_cons (g : Grammar) (expanded : List RuleId) (id : RuleId)
    (rest : List RuleId) :
    g.expandPlans expanded (id :: rest) =
      match g.role? id with
      | none => g.expandPlans expanded rest
      | some (.leaf p) => p :: g.expandPlans expanded rest
      | some (.inner children) =>
        if id ∈ expanded then g.expandPlans expanded rest
        else g.expandPlans (id :: expanded) (children ++ rest) := by
  rw [expandPlans, expand]
  split
  · rename_i h
    simp [role?, h, List.filterMap_cons, Finding.plan?, expandPlans]
  · rename_i rule h
    split
    · rename_i hk
      simp [role?, h, hk, Finding.plan?, expandPlans]
    · rename_i hk
      simp [role?, h, hk, Finding.plan?, expandPlans]
    · rename_i hk
      by_cases hid : id ∈ expanded
      · simp [role?, h, hk, hid, List.filterMap_cons, Finding.plan?, expandPlans]
      · simp [role?, h, hk, hid, expandPlans]
    · rename_i hk
      by_cases hid : id ∈ expanded
      · simp [role?, h, hk, hid, List.filterMap_cons, Finding.plan?, expandPlans]
      · simp [role?, h, hk, hid, expandPlans]

theorem plans_of_missing {g : Grammar} {s : StateStack} (h : g.rule? s.top.rule = none) :
    g.plans s = [] := by
  simp [plans, collect, h, List.filterMap_cons, Finding.plan?]

theorem plans_of_rule {g : Grammar} {s : StateStack} {rule : Rule}
    (h : g.rule? s.top.rule = some rule) :
    g.plans s = (closingPlan s.top rule).filterMap Finding.plan? ++
      g.expandPlans [s.top.rule] rule.patterns := by
  simp [plans, collect, h, expandPlans]

theorem lt_unexpanded_of_role (g : Grammar) {expanded : List RuleId} {id : RuleId} {r : Role}
    (hr : g.role? id = some r) (hid : id ∉ expanded) :
    (g.unexpanded (id :: expanded)).length < (g.unexpanded expanded).length := by
  obtain ⟨rule, hrule, -⟩ := Option.map_eq_some_iff.mp hr
  exact g.length_unexpanded_lt hrule hid

theorem length_unexpanded_le_of_subset (g : Grammar) {xs ys : List RuleId} (h : xs ⊆ ys) :
    (g.unexpanded ys).length ≤ (g.unexpanded xs).length := by
  refine (List.monotone_filter_right _ fun id hid => ?_).length_le
  simp only [decide_eq_true_eq] at hid ⊢
  exact fun hx => hid (h hx)

/-! ### Expanding with the path in mind -/

/-- The plans of the rules of the work list, where a rule is passed over only if it is on the
path. -/
def plansOnPath (g : Grammar) (path work : List RuleId) : List Plan :=
  match work with
  | [] => []
  | id :: rest =>
    match h : g.role? id with
    | none => g.plansOnPath path rest
    | some (.leaf p) => p :: g.plansOnPath path rest
    | some (.inner children) =>
      if hid : id ∈ path then g.plansOnPath path rest
      else
        have := g.lt_unexpanded_of_role h hid
        g.plansOnPath (id :: path) children ++ g.plansOnPath path rest
termination_by ((g.unexpanded path).length, work.length)

/-- The plans for a stack, with only the path from the open rule in mind. -/
def pathPlans (g : Grammar) (s : StateStack) : List Plan :=
  match g.rule? s.top.rule with
  | none => []
  | some rule =>
    (closingPlan s.top rule).filterMap Finding.plan? ++ g.plansOnPath [s.top.rule] rule.patterns

theorem plansOnPath_cons (g : Grammar) (path : List RuleId) (id : RuleId) (rest : List RuleId) :
    g.plansOnPath path (id :: rest) =
      match g.role? id with
      | none => g.plansOnPath path rest
      | some (.leaf p) => p :: g.plansOnPath path rest
      | some (.inner children) =>
        if id ∈ path then g.plansOnPath path rest
        else g.plansOnPath (id :: path) children ++ g.plansOnPath path rest := by
  rw [plansOnPath]
  split
  · rename_i h
    simp [h]
  · rename_i h
    simp [h]
  · rename_i h
    simp [h]

/-! ### Derivations -/

/-- While the rules in `expanded` are not to be expanded again, the work list `work` comes to
`plans`, and then those in `expanded'` are not. -/
inductive Expands (g : Grammar) : List RuleId → List RuleId → List Plan → List RuleId → Prop
  | nil {expanded} : Expands g expanded [] [] expanded
  | missing {expanded id rest plans expanded'} (h : g.role? id = none)
      (hrest : Expands g expanded rest plans expanded') :
      Expands g expanded (id :: rest) plans expanded'
  | leaf {expanded id p rest plans expanded'} (h : g.role? id = some (.leaf p))
      (hrest : Expands g expanded rest plans expanded') :
      Expands g expanded (id :: rest) (p :: plans) expanded'
  | again {expanded id children rest plans expanded'} (h : g.role? id = some (.inner children))
      (hid : id ∈ expanded) (hrest : Expands g expanded rest plans expanded') :
      Expands g expanded (id :: rest) plans expanded'
  | enter {expanded id children inside between rest plans expanded'}
      (h : g.role? id = some (.inner children)) (hid : id ∉ expanded)
      (hinside : Expands g (id :: expanded) children inside between)
      (hrest : Expands g between rest plans expanded') :
      Expands g expanded (id :: rest) (inside ++ plans) expanded'

theorem Expands.subset {g : Grammar} {expanded work expanded' : List RuleId} {plans : List Plan}
    (h : Expands g expanded work plans expanded') : expanded ⊆ expanded' := by
  induction h with
  | nil => exact List.Subset.refl _
  | missing _ _ ih => exact ih
  | leaf _ _ ih => exact ih
  | again _ _ _ ih => exact ih
  | enter _ _ _ _ ihin ihrest =>
    exact List.Subset.trans (List.subset_cons_self _ _) (List.Subset.trans ihin ihrest)

/-- Every work list comes to something, and expanding goes on from there with what follows. -/
theorem exists_expands (g : Grammar) (expanded work : List RuleId) :
    ∃ plans expanded', Expands g expanded work plans expanded' ∧
      ∀ rest, g.expandPlans expanded (work ++ rest) = plans ++ g.expandPlans expanded' rest := by
  match work with
  | [] => exact ⟨[], expanded, .nil, fun rest => rfl⟩
  | id :: work =>
    match h : g.role? id with
    | none =>
      obtain ⟨plans, expanded', hd, heq⟩ := g.exists_expands expanded work
      refine ⟨plans, expanded', .missing h hd, fun rest => ?_⟩
      simp only [List.cons_append, expandPlans_cons, h, heq]
    | some (.leaf p) =>
      obtain ⟨plans, expanded', hd, heq⟩ := g.exists_expands expanded work
      refine ⟨p :: plans, expanded', .leaf h hd, fun rest => ?_⟩
      simp only [List.cons_append, expandPlans_cons, h, heq]
    | some (.inner children) =>
      by_cases hid : id ∈ expanded
      · obtain ⟨plans, expanded', hd, heq⟩ := g.exists_expands expanded work
        refine ⟨plans, expanded', .again h hid hd, fun rest => ?_⟩
        simp only [List.cons_append, expandPlans_cons, h, hid, if_true, heq]
      · have hlt := g.lt_unexpanded_of_role h hid
        obtain ⟨inside, between, hin, heqin⟩ := g.exists_expands (id :: expanded) children
        have hle := g.length_unexpanded_le_of_subset hin.subset
        obtain ⟨plans, expanded', hd, heq⟩ := g.exists_expands between work
        refine ⟨inside ++ plans, expanded', .enter h hid hin hd, fun rest => ?_⟩
        simp only [List.cons_append, expandPlans_cons, h, hid, if_false, List.append_assoc,
          heqin, heq]
termination_by ((g.unexpanded expanded).length, work.length)

/-- What the rules of a list expand to, from the open rule on. -/
theorem expands_of_work (g : Grammar) (expanded work : List RuleId) :
    ∃ expanded', Expands g expanded work (g.expandPlans expanded work) expanded' := by
  obtain ⟨plans, expanded', hd, heq⟩ := g.exists_expands expanded work
  have h := heq []
  simp only [List.append_nil, expandPlans_nil] at h
  exact ⟨expanded', h ▸ hd⟩

/-! ### What plans do -/

theorem Expands.exists_role {g : Grammar} {expanded work expanded' : List RuleId}
    {plans : List Plan} (h : Expands g expanded work plans expanded') :
    ∀ p ∈ plans, ∃ id, g.role? id = some (.leaf p) := by
  induction h with
  | nil => simp
  | missing _ _ ih => exact ih
  | leaf h _ ih => exact List.forall_mem_cons.mpr ⟨⟨_, h⟩, ih⟩
  | again _ _ _ ih => exact ih
  | enter _ _ _ _ ihin ihrest => exact List.forall_mem_append.mpr ⟨ihin, ihrest⟩

theorem allows_of_role {g : Grammar} {id : RuleId} {p : Plan} (h : g.role? id = some (.leaf p)) :
    ∃ rule, g.rule? p.rule = some rule ∧ rule.Allows p.kind := by
  obtain ⟨rule, hrule, hrole⟩ := Option.map_eq_some_iff.mp h
  split at hrole
  · rename_i pattern captures hk
    obtain rfl := Role.leaf.inj hrole
    exact ⟨rule, hrule, pattern, captures, hk⟩
  · rename_i d hk
    obtain rfl := Role.leaf.inj hrole
    exact ⟨rule, hrule, d, by rw [Rule.delimiters?, hk]⟩
  · cases hrole
  · cases hrole

/-- Every plan for a stack names a rule of the grammar that allows its kind. -/
theorem plans_allowed {g : Grammar} {s : StateStack} {p : Plan} (hp : p ∈ g.plans s) :
    ∃ rule, g.rule? p.rule = some rule ∧ rule.Allows p.kind := by
  cases h : g.rule? s.top.rule with
  | none => simp [plans_of_missing h] at hp
  | some rule =>
    rw [plans_of_rule h] at hp
    rcases List.mem_append.mp hp with hp | hp
    · unfold closingPlan at hp
      cases hd : rule.delimiters? with
      | none => simp [hd] at hp
      | some d =>
        have hclosing : p.rule = s.top.rule ∧ p.kind = .closing := by
          cases hc : s.top.closing with
          | none =>
            obtain rfl : p = _ := by simpa [hd, hc, Finding.plan?] using hp
            exact ⟨rfl, rfl⟩
          | some pattern =>
            obtain rfl : p = _ := by simpa [hd, hc, Finding.plan?] using hp
            exact ⟨rfl, rfl⟩
        rw [hclosing.1, hclosing.2]
        exact ⟨rule, h, d, hd⟩
    · obtain ⟨expanded', hd⟩ := g.expands_of_work [s.top.rule] rule.patterns
      obtain ⟨id, hrole⟩ := hd.exists_role p hp
      exact allows_of_role hrole

/-! ### Finished rules -/

/-- Nothing new comes of the rule: its plan is found, or it is expanded. -/
def Known (g : Grammar) (expanded : List RuleId) (found : List Plan) (id : RuleId) : Prop :=
  match g.role? id with
  | none => True
  | some (.leaf p) => p ∈ found
  | some (.inner _) => id ∈ expanded

theorem Known.mono {g : Grammar} {expanded expanded' : List RuleId} {found found' : List Plan}
    {id : RuleId} (h : g.Known expanded found id) (he : expanded ⊆ expanded')
    (hf : found ⊆ found') : g.Known expanded' found' id := by
  unfold Known at h ⊢
  split
  · trivial
  · rename_i p hr
    rw [hr] at h
    exact hf h
  · rename_i hr
    rw [hr] at h
    exact he h

/-- All rules listed in a finished rule, one that is expanded and not on the path, are known. -/
def Closed (g : Grammar) (path expanded : List RuleId) (found : List Plan) : Prop :=
  ∀ id ∈ expanded, id ∉ path → ∀ children, g.role? id = some (.inner children) →
    ∀ c ∈ children, g.Known expanded found c

theorem Closed.mono_found {g : Grammar} {path expanded : List RuleId} {found found' : List Plan}
    (h : g.Closed path expanded found) (hf : found ⊆ found') : g.Closed path expanded found' :=
  fun id hid hpath children hr c hc =>
    (h id hid hpath children hr c hc).mono (List.Subset.refl _) hf

/-- A rule may be put on the path when it is expanded. -/
theorem Closed.cons {g : Grammar} {path expanded : List RuleId} {found : List Plan}
    (h : g.Closed path expanded found) (id : RuleId) :
    g.Closed (id :: path) (id :: expanded) found := by
  intro i hi hpath children hr c hc
  rcases List.mem_cons.mp hi with rfl | hi
  · exact absurd List.mem_cons_self hpath
  · exact (h i hi (fun hp => hpath (List.mem_cons_of_mem _ hp)) children hr c hc).mono
      (List.subset_cons_self _ _) (List.Subset.refl _)

/-- A rule may be taken off the path when the rules listed in it are known. -/
theorem Closed.of_cons {g : Grammar} {path expanded children : List RuleId} {found : List Plan}
    {id : RuleId} (h : g.Closed (id :: path) expanded found)
    (hr : g.role? id = some (.inner children))
    (hknown : ∀ c ∈ children, g.Known expanded found c) : g.Closed path expanded found := by
  intro i hi hpath cs hcs c hc
  by_cases heq : i = id
  · subst heq
    obtain rfl : children = cs := by simpa [hr] using hcs
    exact hknown c hc
  · exact h i hi (by simp [heq, hpath]) cs hcs c hc

/-- Expanding known rules once more, on any longer path, finds nothing new. -/
theorem plansOnPath_subset {g : Grammar} {path expanded : List RuleId} {found : List Plan}
    (hclosed : g.Closed path expanded found) (longer work : List RuleId)
    (hpath : path ⊆ longer) (hknown : ∀ c ∈ work, g.Known expanded found c) :
    g.plansOnPath longer work ⊆ found := by
  match work with
  | [] => simp [plansOnPath]
  | id :: rest =>
    have hrest := plansOnPath_subset hclosed longer rest hpath
      fun c hc => hknown c (List.mem_cons_of_mem _ hc)
    have hid := hknown id List.mem_cons_self
    rw [plansOnPath_cons]
    match h : g.role? id with
    | none => exact hrest
    | some (.leaf p) =>
      simp only [Known, h] at hid
      exact List.cons_subset.mpr ⟨hid, hrest⟩
    | some (.inner children) =>
      simp only [Known, h] at hid
      by_cases hl : id ∈ longer
      · simpa only [hl, if_true] using hrest
      · have hlt := g.lt_unexpanded_of_role h hl
        -- The rule is not on the shorter path either, so it is finished.
        have hfinished := hclosed id hid (fun hp => hl (hpath hp)) children h
        have hinside := plansOnPath_subset hclosed (id :: longer) children
          (List.subset_cons_of_subset _ hpath) hfinished
        simpa only [hl, if_false] using List.append_subset.mpr ⟨hinside, hrest⟩
termination_by ((g.unexpanded longer).length, work.length)

/-! ### First occurrences -/

theorem eraseDups_append_of_subset {α : Type} [BEq α] [LawfulBEq α] {as bs : List α}
    (h : bs ⊆ as) : (as ++ bs).eraseDups = as.eraseDups := by
  have hnone : bs.removeAll as = [] := by
    simp only [List.removeAll, List.filter_eq_nil_iff]
    intro b hb
    simpa using h hb
  rw [List.eraseDups_append, hnone, List.eraseDups_nil, List.append_nil]

theorem eraseDups_append_congr {α : Type} [BEq α] [LawfulBEq α] {as bs : List α}
    (h : as.eraseDups = bs.eraseDups) (cs : List α) :
    (as ++ cs).eraseDups = (bs ++ cs).eraseDups := by
  have hmem : ∀ a, a ∈ as ↔ a ∈ bs := fun a => by
    rw [← List.mem_eraseDups, h, List.mem_eraseDups]
  have hrest : cs.removeAll as = cs.removeAll bs := by
    simp only [List.removeAll]
    refine List.filter_congr fun c _ => ?_
    rw [Bool.eq_iff_iff]
    simpa using not_congr (hmem c)
  rw [List.eraseDups_append, List.eraseDups_append, h, hrest]

/-- After plans that close what is finished, both expansions of a work list find the same plans in
the same order of first occurrence, and then all rules of the work list are known. -/
theorem Expands.eraseDups_append {g : Grammar} {expanded work expanded' : List RuleId}
    {plans : List Plan} (h : Expands g expanded work plans expanded') :
    ∀ {path found}, path ⊆ expanded → g.Closed path expanded found →
      (found ++ plans).eraseDups = (found ++ g.plansOnPath path work).eraseDups ∧
      g.Closed path expanded' (found ++ plans) ∧
      ∀ c ∈ work, g.Known expanded' (found ++ plans) c := by
  induction h with
  | nil =>
    intro path found _ hclosed
    simpa [plansOnPath] using hclosed
  | @missing expanded id rest plans expanded' h hrest ih =>
    intro path found hpath hclosed
    obtain ⟨heq, hclosed', hknown⟩ := ih hpath hclosed
    refine ⟨?_, hclosed', List.forall_mem_cons.mpr ⟨?_, hknown⟩⟩
    · simpa only [plansOnPath_cons, h] using heq
    · simp [Known, h]
  | @leaf expanded id p rest plans expanded' h hrest ih =>
    intro path found hpath hclosed
    obtain ⟨heq, hclosed', hknown⟩ :=
      ih hpath (hclosed.mono_found (List.subset_append_left found [p]))
    rw [List.append_assoc, List.singleton_append] at heq hclosed' hknown
    refine ⟨?_, hclosed', List.forall_mem_cons.mpr ⟨?_, hknown⟩⟩
    · simpa only [plansOnPath_cons, h, List.append_assoc, List.singleton_append] using heq
    · simp [Known, h]
  | @again expanded id children rest plans expanded' h hid hrest ih =>
    intro path found hpath hclosed
    obtain ⟨heq, hclosed', hknown⟩ := ih hpath hclosed
    refine ⟨?_, hclosed', List.forall_mem_cons.mpr ⟨?_, hknown⟩⟩
    · by_cases hp : id ∈ path
      · simpa only [plansOnPath_cons, h, hp, if_true] using heq
      · -- The rule is finished: the other expansion goes through it again and finds nothing new.
        have hnothing : g.plansOnPath (id :: path) children ⊆ found :=
          plansOnPath_subset hclosed (id :: path) children (List.subset_cons_self _ _)
            (hclosed id hid hp children h)
        simp only [plansOnPath_cons, h, hp, if_false, ← List.append_assoc]
        rw [heq]
        exact eraseDups_append_congr (eraseDups_append_of_subset hnothing).symm _
    · simpa [Known, h] using hrest.subset hid
  | @enter expanded id children inside between rest plans expanded' h hid hin hrest ihin ihrest =>
    intro path found hpath hclosed
    have hp : id ∉ path := fun hp => hid (hpath hp)
    -- The rule is on the path while the rules listed in it are expanded, and finished after that.
    obtain ⟨heqin, hclosedin, hknownin⟩ :=
      ihin (List.cons_subset_cons id hpath) (hclosed.cons id)
    have hbetween : expanded ⊆ between :=
      List.Subset.trans (List.subset_cons_self _ _) hin.subset
    obtain ⟨heq, hclosed', hknown⟩ :=
      ihrest (List.Subset.trans hpath hbetween) (hclosedin.of_cons h hknownin)
    rw [List.append_assoc] at heq hclosed' hknown
    refine ⟨?_, hclosed', List.forall_mem_cons.mpr ⟨?_, hknown⟩⟩
    · simp only [plansOnPath_cons, h, hp, if_false, ← List.append_assoc]
      rw [List.append_assoc found, heq]
      exact eraseDups_append_congr heqin _
    · simpa [Known, h] using hrest.subset (hin.subset List.mem_cons_self)

/-- Both expansions give a stack the same plans in the same order of first occurrence. -/
theorem eraseDups_plans (g : Grammar) (s : StateStack) :
    (g.plans s).eraseDups = (g.pathPlans s).eraseDups := by
  cases h : g.rule? s.top.rule with
  | none => rw [plans_of_missing h, pathPlans, h]
  | some rule =>
    obtain ⟨expanded', hd⟩ := g.expands_of_work [s.top.rule] rule.patterns
    -- At first nothing is finished: the open rule alone is expanded, and it is on the path.
    have hclosed : g.Closed [s.top.rule] [s.top.rule]
        ((closingPlan s.top rule).filterMap Finding.plan?) := fun id hid hpath => absurd hid hpath
    rw [plans_of_rule h, pathPlans, h]
    exact (hd.eraseDups_append (List.Subset.refl _) hclosed).1

/-- Passing over rules that are expanded already never changes which plan wins: expanding them
wherever they are met gives the same plans in the same order of first occurrence, and with them
the same choice or error on every coherent cache. -/
theorem plans_interchangeable_with_pathPlans (g : Grammar) (s : StateStack) :
    (g.plans s).eraseDups = (g.pathPlans s).eraseDups ∧
    ∀ {ε M : Type} (engine : Engine ε M), engine.SearchesForward →
      ∀ {cache : PatternCache M}, engine.Coherent cache → ∀ (line : String) (start : Nat),
        ((engine.choose (g.plans s) line start).run cache).result =
          ((engine.choose (g.pathPlans s) line start).run cache).result :=
  ⟨g.eraseDups_plans s, fun _ hforward _ hc line start =>
    Engine.result_choose_congr hforward (g.eraseDups_plans s) hc hc line start⟩

/-- Two containers that list each other, both listed in the root, and a reference back to it. -/
def knot : Grammar :=
  ⟨#[⟨.container, none, [1, 2, 3]⟩, ⟨.container, none, [2, 4]⟩, ⟨.container, none, [1, 5]⟩,
    ⟨.reference 0, none, []⟩, ⟨.plain "a" .none, none, []⟩, ⟨.plain "b" .none, none, []⟩], 0⟩

/-- Both patterns match all of the line `x`. -/
def knotTable : Scripted.Table :=
  [("a", [⟨⟨⟨0, 1⟩, []⟩, some "x", none⟩]), ("b", [⟨⟨⟨0, 1⟩, []⟩, some "x", none⟩])]

/-- In the knot the two expansions differ, but not in first occurrences. -/
theorem plans_interchangeable_in_knot :
    (Scripted.engine knotTable).SearchesForward ∧
    (Scripted.engine knotTable).Coherent .empty ∧
    (knot.plans (.initial knot)).map Plan.rule = [5, 4] ∧
    (knot.pathPlans (.initial knot)).map Plan.rule = [5, 4, 4, 5] ∧
    (knot.plans (.initial knot)).eraseDups = (knot.pathPlans (.initial knot)).eraseDups ∧
    (((Scripted.engine knotTable).choose (knot.plans (.initial knot)) "x" 0).run .empty).result =
      (((Scripted.engine knotTable).choose (knot.pathPlans (.initial knot)) "x" 0).run
        .empty).result := by
  have hforward : (Scripted.engine knotTable).SearchesForward :=
    (Scripted.staysInLine (by decide)).searchesForward
  have hcoherent := Engine.coherent_empty (Scripted.engine knotTable)
  obtain ⟨hfirst, hchoose⟩ := knot.plans_interchangeable_with_pathPlans (.initial knot)
  exact ⟨hforward, hcoherent, by cbv, by cbv, hfirst,
    hchoose (Scripted.engine knotTable) hforward hcoherent "x" 0⟩

end Grammar

end LineScopes
