/-
Which plans are collected.

The plans for a stack are the one that closes the open rule and those of the rules it reaches:
the rules listed in it, and the rules that references and containers among them stand for.

* `Grammar.standIns` — the rules that a reference or a container stands for;
* `Grammar.Reached` — the rules that come of a list of rules in this way;
* `Expands.exists_entered` — what is collected is the plans of all rules listed, and of all
  rules that the expanded ones stand for, each of these expanded once;
* `known_of_reached` — no rule that is reached is missed;
* `plans_of_open_rule` — so the plans are those of the rules reached, and there are no more
  than rules listed in the grammar and references in it.
-/
import LineScopes.Proofs.Expansion
import Mathlib

namespace LineScopes

/-! ### Rules that stand for others -/

namespace Rule

/-- The plan of a rule that is listed in another: it matches a pattern, or opens a region. -/
def plan? (r : Rule) (id : RuleId) : Option Plan :=
  match r.kind with
  | .plain pattern _ => some ⟨.plain, id, pattern, false⟩
  | .region d => some ⟨.opening, id, d.opening, false⟩
  | .reference _ | .container => none

/-- Whether other rules take the place of the rule. -/
def isInner (r : Rule) : Bool :=
  match r.kind with
  | .reference _ | .container => true
  | .plain _ _ | .region _ => false

/-- Whether the rule is a reference. -/
def isReference (r : Rule) : Bool :=
  match r.kind with
  | .reference _ => true
  | _ => false

/-- The rules that take the place of the rule. -/
def standIns (r : Rule) : List RuleId :=
  match r.kind with
  | .reference target => [target]
  | .container => r.patterns
  | .plain _ _ | .region _ => []

theorem kind_ne_closing_of_plan? {r : Rule} {id : RuleId} {p : Plan} (h : r.plan? id = some p) :
    p.kind ≠ .closing := by
  unfold plan? at h
  split at h
  · exact Option.some.inj h ▸ PlanKind.noConfusion
  · exact Option.some.inj h ▸ PlanKind.noConfusion
  · cases h
  · cases h

theorem rule_of_plan? {r : Rule} {id : RuleId} {p : Plan} (h : r.plan? id = some p) :
    p.rule = id := by
  unfold plan? at h
  split at h
  · exact Option.some.inj h ▸ rfl
  · exact Option.some.inj h ▸ rfl
  · cases h
  · cases h

/-- A rule stands for what is listed in it, or for the target of a reference. -/
theorem length_standIns_le (r : Rule) :
    r.standIns.length ≤ r.patterns.length + r.isReference.toNat := by
  unfold standIns isReference
  cases r.kind <;> simp

end Rule

namespace Grammar

/-- The plan of the rule at a position. -/
def listedPlan? (g : Grammar) (id : RuleId) : Option Plan :=
  (g.rule? id).bind fun r => r.plan? id

/-- The rules that take the place of the rule at a position. -/
def standIns (g : Grammar) (id : RuleId) : List RuleId :=
  (g.rule? id).elim [] Rule.standIns

/-- The rules that come of those listed: they themselves, and all that take the place of one that
comes of them. -/
def Reached (g : Grammar) (listed : List RuleId) (id : RuleId) : Prop :=
  ∃ c ∈ listed, Relation.ReflTransGen (fun a b => b ∈ g.standIns a) c id

theorem role?_eq_leaf_iff {g : Grammar} {id : RuleId} {p : Plan} :
    g.role? id = some (.leaf p) ↔ g.listedPlan? id = some p := by
  cases h : g.rule? id with
  | none => simp [role?, listedPlan?, h]
  | some r => cases hk : r.kind <;> simp [role?, listedPlan?, Rule.plan?, h, hk]

theorem role?_eq_inner_iff {g : Grammar} {id : RuleId} {children : List RuleId} :
    g.role? id = some (.inner children) ↔
      ∃ r, g.rule? id = some r ∧ r.isInner ∧ g.standIns id = children := by
  cases h : g.rule? id with
  | none => simp [role?, h]
  | some r => cases hk : r.kind <;> simp [role?, standIns, Rule.standIns, Rule.isInner, h, hk]

theorem listedPlan?_of_missing {g : Grammar} {id : RuleId} (h : g.role? id = none) :
    g.listedPlan? id = none := by
  obtain hrule := Option.map_eq_none_iff.mp h
  rw [listedPlan?, hrule, Option.bind_none]

theorem listedPlan?_of_inner {g : Grammar} {id : RuleId} {children : List RuleId}
    (h : g.role? id = some (.inner children)) : g.listedPlan? id = none := by
  cases hp : g.listedPlan? id with
  | none => rfl
  | some p => cases h.symm.trans (role?_eq_leaf_iff.mpr hp)

theorem standIns_of_inner {g : Grammar} {id : RuleId} {children : List RuleId}
    (h : g.role? id = some (.inner children)) : g.standIns id = children := by
  obtain ⟨r, -, -, hchildren⟩ := role?_eq_inner_iff.mp h
  exact hchildren

/-- Only a rule whose place others take stands for any. -/
theorem inner_of_mem_standIns {g : Grammar} {id c : RuleId} (h : c ∈ g.standIns id) :
    g.role? id = some (.inner (g.standIns id)) := by
  refine role?_eq_inner_iff.mpr ?_
  unfold standIns at h
  cases hr : g.rule? id with
  | none => simp [hr] at h
  | some r =>
    refine ⟨r, rfl, ?_, rfl⟩
    rw [hr] at h
    cases hk : r.kind <;> simp_all [Rule.standIns, Rule.isInner]

/-! ### Each rule once -/

theorem Expands.nodup {g : Grammar} {expanded work expanded' : List RuleId} {plans : List Plan}
    (h : Expands g expanded work plans expanded') : expanded.Nodup → expanded'.Nodup := by
  induction h with
  | nil => exact fun hn => hn
  | missing _ _ ih => exact ih
  | leaf _ _ ih => exact ih
  | again _ _ _ ih => exact ih
  | enter _ hid _ _ ihin ihrest => exact fun hn => ihrest (ihin (List.nodup_cons.mpr ⟨hid, hn⟩))

/-- What is collected is the plans of the rules in the work list and of those that the rules
expanded on the way stand for. -/
theorem Expands.exists_entered {g : Grammar} {expanded work expanded' : List RuleId}
    {plans : List Plan} (h : Expands g expanded work plans expanded') :
    ∃ entered, expanded' = entered ++ expanded ∧
      plans.Perm ((work ++ entered.flatMap g.standIns).filterMap g.listedPlan?) := by
  induction h with
  | nil => exact ⟨[], rfl, .nil⟩
  | missing h _ ih =>
    obtain ⟨entered, rfl, hperm⟩ := ih
    refine ⟨entered, rfl, ?_⟩
    rwa [List.cons_append, List.filterMap_cons_none (listedPlan?_of_missing h)]
  | leaf h _ ih =>
    obtain ⟨entered, rfl, hperm⟩ := ih
    refine ⟨entered, rfl, ?_⟩
    rw [List.cons_append, List.filterMap_cons_some (role?_eq_leaf_iff.mp h)]
    exact hperm.cons _
  | again h _ _ ih =>
    obtain ⟨entered, rfl, hperm⟩ := ih
    refine ⟨entered, rfl, ?_⟩
    rwa [List.cons_append, List.filterMap_cons_none (listedPlan?_of_inner h)]
  | @enter expanded id children inside between rest plans expanded' h _ _ _ ihin ihrest =>
    obtain ⟨enteredIn, rfl, hin⟩ := ihin
    obtain ⟨enteredRest, rfl, hrest⟩ := ihrest
    refine ⟨enteredRest ++ (enteredIn ++ [id]), by simp, ?_⟩
    refine (hin.append hrest).trans (List.perm_iff_count.mpr fun p => ?_)
    simp only [List.cons_append, List.filterMap_cons_none (listedPlan?_of_inner h),
      List.flatMap_append, List.flatMap_singleton, standIns_of_inner h, List.filterMap_append,
      List.count_append]
    omega

/-- What is expanded on the way is reached from the work list. -/
theorem Expands.reached {g : Grammar} {expanded work expanded' : List RuleId} {plans : List Plan}
    (h : Expands g expanded work plans expanded') :
    ∀ id ∈ expanded', id ∈ expanded ∨
      g.Reached work id ∧ ∃ children, g.role? id = some (.inner children) := by
  have hrest : ∀ {id c rest}, g.Reached rest id → g.Reached (c :: rest) id :=
    fun ⟨c, hc, h⟩ => ⟨c, List.mem_cons_of_mem _ hc, h⟩
  induction h with
  | nil => exact fun id hid => .inl hid
  | missing _ _ ih => exact fun id hid => (ih id hid).imp_right (.imp_left hrest)
  | leaf _ _ ih => exact fun id hid => (ih id hid).imp_right (.imp_left hrest)
  | again _ _ _ ih => exact fun id hid => (ih id hid).imp_right (.imp_left hrest)
  | @enter expanded id children inside between rest plans expanded' h _ _ _ ihin ihrest =>
    intro i hi
    rcases ihrest i hi with hbetween | hreached
    · rcases ihin i hbetween with hexpanded | ⟨⟨c, hc, hreach⟩, hinner⟩
      · rcases List.mem_cons.mp hexpanded with rfl | hexpanded
        · exact .inr ⟨⟨i, List.mem_cons_self, .refl⟩, children, h⟩
        · exact .inl hexpanded
      · -- What the rule stands for is reached through it.
        have hstep : c ∈ g.standIns id := standIns_of_inner h ▸ hc
        exact .inr ⟨⟨id, List.mem_cons_self, .head hstep hreach⟩, hinner⟩
    · exact .inr (hreached.imp_left hrest)

/-! ### No rule is missed -/

/-- Where the rules of the work list are known, and all rules that a finished one stands for, every
rule reached is known. -/
theorem known_of_reached {g : Grammar} {a id : RuleId} {work expanded : List RuleId}
    {found : List Plan} (hclosed : g.Closed [a] expanded found)
    (hwork : ∀ c ∈ work, g.Known expanded found c) (ha : g.standIns a ⊆ work)
    (h : g.Reached work id) : g.Known expanded found id := by
  obtain ⟨c, hc, hreach⟩ := h
  induction hreach with
  | refl => exact hwork c hc
  | @tail b d _ hd ih =>
    have hinner := inner_of_mem_standIns hd
    by_cases hb : b = a
    · exact hwork d (ha (hb ▸ hd))
    · have hexpanded : b ∈ expanded := by simpa [Known, hinner] using ih
      exact hclosed b hexpanded (by simpa using hb) _ hinner d hd

/-! ### How many there are -/

/-- The number of rules listed in the rule at a position, its target included. -/
def entries (g : Grammar) (id : RuleId) : Nat :=
  (g.rule? id).elim 0 fun r => r.patterns.length + r.isReference.toNat

theorem length_standIns_le (g : Grammar) (id : RuleId) :
    (g.standIns id).length ≤ g.entries id := by
  cases h : g.rule? id with
  | none => simp [standIns, entries, h]
  | some r =>
    simp only [standIns, entries, h, Option.elim_some]
    exact r.length_standIns_le

theorem map_entries_range (g : Grammar) :
    (List.range g.size).map g.entries =
      g.rules.toList.map fun r => r.patterns.length + r.isReference.toNat := by
  refine List.ext_getElem (by simp [size]) fun i hi hi' => ?_
  have hsize : i < g.rules.size := by simpa [size] using hi
  simp [entries, rule?, Array.getElem?_eq_getElem hsize]

/-- Different rules have no more entries than there are in the grammar. -/
theorem sum_entries_le (g : Grammar) {ids : List RuleId} (hnodup : ids.Nodup)
    (hids : ∀ id ∈ ids, ∃ r, g.rule? id = some r) :
    (ids.map g.entries).sum ≤
      (g.rules.toList.map fun r => r.patterns.length).sum + g.rules.countP Rule.isReference := by
  have hsubset : ids ⊆ List.range g.size := by
    intro id hid
    obtain ⟨r, hr⟩ := hids id hid
    exact List.mem_range.mpr (Array.getElem?_eq_some_iff.mp hr).1
  obtain ⟨l, hperm, hsub⟩ := List.subperm_of_subset hnodup hsubset
  have hcount : ∀ rs : List Rule,
      (rs.map fun r => r.isReference.toNat).sum = rs.countP Rule.isReference := by
    intro rs
    induction rs with
    | nil => rfl
    | cons r rs ih => cases h : r.isReference <;> simp [h, ih, Nat.add_comm]
  calc (ids.map g.entries).sum = (l.map g.entries).sum := (hperm.map g.entries).sum_eq.symm
    _ ≤ ((List.range g.size).map g.entries).sum :=
        (hsub.map g.entries).sum_le_sum fun n _ => Nat.zero_le n
    _ = (g.rules.toList.map fun r => r.patterns.length).sum +
          g.rules.countP Rule.isReference := by
        rw [map_entries_range, List.sum_map_add, hcount, Array.countP_toList]

/-! ### The plans for a stack -/

theorem filterMap_closingPlan (state : OpenState) (rule : Rule) :
    (closingPlan state rule).filterMap Finding.plan? =
      (rule.delimiters?.map fun d => (⟨.closing, state.rule, state.closing.getD d.closing,
        state.closing.isSome⟩ : Plan)).toList := by
  cases hd : rule.delimiters? with
  | none => simp [closingPlan, hd]
  | some d => cases hc : state.closing <;> simp [closingPlan, hd, hc, Finding.plan?]

section OpenRule

variable {g : Grammar} {a : RuleId} {rule : Rule} {plans : List Plan} {entered : List RuleId}
  (hrule : g.rule? a = some rule) (hkind : rule.isReference = false)
  (h : Expands g [a] rule.patterns plans (entered ++ [a]))
include hrule hkind h

/-- What the open rule lists is expanded at the beginning, so that it need not be expanded again
where it is reached itself. -/
theorem known_of_expands {id : RuleId} (hid : g.Reached rule.patterns id) :
    g.Known (entered ++ [a]) plans id := by
  have hopen : g.Closed [a] [a] [] := fun id hid hpath => absurd hid hpath
  obtain ⟨-, hclosed, hknown⟩ := h.eraseDups_append (List.Subset.refl _) hopen
  refine known_of_reached hclosed hknown ?_ hid
  unfold standIns
  rw [hrule, Option.elim_some]
  cases hk : rule.kind <;> simp_all [Rule.standIns, Rule.isReference]

/-- All references and containers that are reached are expanded, each of them once. -/
theorem mem_entered_iff {id : RuleId} :
    id ∈ entered ↔ id ≠ a ∧ g.Reached rule.patterns id ∧
      ∃ r, g.rule? id = some r ∧ r.isInner := by
  have hnodup : (entered ++ [a]).Nodup := h.nodup (List.nodup_singleton a)
  constructor
  · intro hid
    have hne : id ≠ a := by
      rintro rfl
      exact List.disjoint_of_nodup_append hnodup hid (List.mem_singleton_self _)
    rcases h.reached id (List.mem_append_left _ hid) with hopen | ⟨hreached, children, hinner⟩
    · exact absurd (List.mem_singleton.mp hopen) hne
    · obtain ⟨r, hr, hinner, -⟩ := role?_eq_inner_iff.mp hinner
      exact ⟨hne, hreached, r, hr, hinner⟩
  · rintro ⟨hne, hreached, r, hr, hinner⟩
    have hrole := role?_eq_inner_iff.mpr ⟨r, hr, hinner, rfl⟩
    have hknown := known_of_expands hrule hkind h hreached
    simp only [Known, hrole] at hknown
    exact (List.mem_append.mp hknown).resolve_right (by simpa using hne)

/-- The plans are those of the rules reached. -/
theorem listedPlan?_mem_iff
    (hperm : plans.Perm ((rule.patterns ++ entered.flatMap g.standIns).filterMap g.listedPlan?))
    {p : Plan} :
    p ∈ plans ↔ ∃ id, g.Reached rule.patterns id ∧ g.listedPlan? id = some p := by
  constructor
  · intro hp
    obtain ⟨id, hid, hplan⟩ := List.mem_filterMap.mp (hperm.mem_iff.mp hp)
    refine ⟨id, ?_, hplan⟩
    rcases List.mem_append.mp hid with hlisted | hentered
    · exact ⟨id, hlisted, .refl⟩
    · obtain ⟨b, hb, hstands⟩ := List.mem_flatMap.mp hentered
      obtain ⟨-, ⟨c, hc, hreach⟩, -⟩ := (mem_entered_iff hrule hkind h).mp hb
      exact ⟨c, hc, hreach.tail hstands⟩
  · rintro ⟨id, hreached, hplan⟩
    have hknown := known_of_expands hrule hkind h hreached
    simpa only [Known, role?_eq_leaf_iff.mpr hplan] using hknown

/-- Each rule is counted where it is listed in the open rule or in one that is expanded. -/
theorem length_plans_le
    (hperm : plans.Perm ((rule.patterns ++ entered.flatMap g.standIns).filterMap g.listedPlan?)) :
    plans.length ≤ (g.rules.toList.map fun r => r.patterns.length).sum +
      g.rules.countP Rule.isReference := by
  have hnodup : (entered ++ [a]).Nodup := h.nodup (List.nodup_singleton a)
  have hrules : ∀ id ∈ entered ++ [a], ∃ r, g.rule? id = some r := by
    intro id hid
    rcases List.mem_append.mp hid with hid | hid
    · obtain ⟨-, -, r, hr, -⟩ := (mem_entered_iff hrule hkind h).mp hid
      exact ⟨r, hr⟩
    · exact ⟨rule, List.mem_singleton.mp hid ▸ hrule⟩
  have hopen : rule.patterns.length = g.entries a := by simp [entries, hrule, hkind]
  calc plans.length
      ≤ (rule.patterns ++ entered.flatMap g.standIns).length :=
        hperm.length_eq ▸ List.length_filterMap_le _ _
    _ = rule.patterns.length + (entered.map fun id => (g.standIns id).length).sum := by
        rw [List.length_append, List.length_flatMap]
    _ ≤ g.entries a + (entered.map g.entries).sum := by
        rw [hopen]
        exact Nat.add_le_add_left (List.sum_le_sum fun id _ => g.length_standIns_le id) _
    _ = ((entered ++ [a]).map g.entries).sum := by simp [Nat.add_comm]
    _ ≤ _ := g.sum_entries_le hnodup hrules

end OpenRule

/-- The plans for a stack whose innermost state names a rule that is no reference.  The first one
closes that rule if it is a region, with the pattern recorded in the state if there is one.  The
others are the plans of the rules reached from those listed in it, and each of them allows its
kind.  Every reference and container reached is expanded once, the open rule not at all, so that
collecting comes to an end with a plan for each time that a rule is listed in one of them. -/
theorem plans_of_open_rule (g : Grammar) (s : StateStack) {rule : Rule}
    (hrule : g.rule? s.top.rule = some rule) (hkind : rule.isReference = false) :
    ∃ rest entered,
      g.plans s = (rule.delimiters?.map fun d => (⟨.closing, s.top.rule,
        s.top.closing.getD d.closing, s.top.closing.isSome⟩ : Plan)).toList ++ rest ∧
      (∀ p ∈ rest, p.kind ≠ .closing) ∧
      (∀ id p, p ∈ rest ∧ p.rule = id ↔
        g.Reached rule.patterns id ∧ ∃ r, g.rule? id = some r ∧ r.plan? id = some p) ∧
      (∀ p ∈ g.plans s, ∃ r, g.rule? p.rule = some r ∧ r.Allows p.kind) ∧
      Expands g [s.top.rule] rule.patterns rest (entered ++ [s.top.rule]) ∧
      (entered ++ [s.top.rule]).Nodup ∧
      (∀ id, id ∈ entered ↔ id ≠ s.top.rule ∧ g.Reached rule.patterns id ∧
        ∃ r, g.rule? id = some r ∧ r.isInner) ∧
      rest.Perm ((rule.patterns ++ entered.flatMap g.standIns).filterMap g.listedPlan?) ∧
      (g.plans s).length ≤ 1 + (g.rules.toList.map fun r => r.patterns.length).sum +
        g.rules.countP Rule.isReference := by
  obtain ⟨expanded, hd⟩ := g.expands_of_work [s.top.rule] rule.patterns
  obtain ⟨entered, rfl, hperm⟩ := hd.exists_entered
  have hplans := plans_of_rule hrule
  rw [filterMap_closingPlan] at hplans
  have hmem := fun p => listedPlan?_mem_iff hrule hkind hd hperm (p := p)
  refine ⟨_, entered, hplans, ?_, ?_, fun p hp => plans_allowed hp, hd,
    hd.nodup (List.nodup_singleton _), fun id => mem_entered_iff hrule hkind hd, hperm, ?_⟩
  · intro p hp
    obtain ⟨id, -, hplan⟩ := (hmem p).mp hp
    obtain ⟨r, -, hr⟩ := Option.bind_eq_some_iff.mp hplan
    exact Rule.kind_ne_closing_of_plan? hr
  · intro id p
    simp only [hmem, listedPlan?, Option.bind_eq_some_iff]
    constructor
    · rintro ⟨⟨id', hreached, r, hr, hplan⟩, rfl⟩
      obtain rfl := Rule.rule_of_plan? hplan
      exact ⟨hreached, r, hr, hplan⟩
    · rintro ⟨hreached, r, hr, hplan⟩
      exact ⟨⟨id, hreached, r, hr, hplan⟩, Rule.rule_of_plan? hplan⟩
  · have hle := length_plans_le hrule hkind hd hperm
    rw [hplans, List.length_append, Nat.add_assoc]
    exact Nat.add_le_add Option.length_toList_le hle

/-- A region with a reference and a container in it that lead back to the region and to each other,
and a rule in it that does not exist. -/
def maze : Grammar :=
  ⟨#[⟨.container, none, [1, 2]⟩, ⟨.region ⟨"<", ">", .none, .none, .none⟩, none, [2, 3, 9, 1, 4]⟩,
    ⟨.reference 3, none, []⟩, ⟨.container, none, [2, 4, 0]⟩, ⟨.plain "a" .none, none, []⟩], 0⟩

/-- In the maze, the plan of the plain rule is found twice, since two of the rules looked at list
it, and all rules but the one that does not exist are reached. -/
theorem plans_of_open_rule_in_maze :
    let s : StateStack := (StateStack.initial maze).push ⟨1, none, some "END"⟩
    (∃ rule, maze.rule? s.top.rule = some rule ∧ rule.isReference = false) ∧
      (maze.plans s).map (fun p => (p.kind, p.rule)) =
        [(.closing, 1), (.plain, 4), (.opening, 1), (.opening, 1), (.plain, 4)] ∧
      (maze.plans s).head? = some ⟨.closing, 1, "END", true⟩ ∧
      maze.Reached [2, 3, 9, 1, 4] 4 ∧ (maze.plans s).length ≤ 12 := by
  intro s
  have hrule : maze.rule? s.top.rule =
      some ⟨.region ⟨"<", ">", .none, .none, .none⟩, none, [2, 3, 9, 1, 4]⟩ := by decide
  have hplans : maze.plans s = [⟨.closing, 1, "END", true⟩, ⟨.plain, 4, "a", false⟩,
      ⟨.opening, 1, "<", false⟩, ⟨.opening, 1, "<", false⟩, ⟨.plain, 4, "a", false⟩] := by cbv
  obtain ⟨rest, entered, hclosing, -, hmem, -, -, -, -, -, hlength⟩ :=
    maze.plans_of_open_rule s hrule rfl
  refine ⟨⟨_, hrule, rfl⟩, ?_, ?_, ?_, hlength⟩
  · rw [hplans]
    rfl
  · rw [hplans]
    rfl
  · -- The first of the plans is the closing one, so that the others are the rest.
    rw [hplans] at hclosing
    have hrest : _ = rest := (List.cons.inj hclosing).2
    exact ((hmem 4 ⟨.plain, 4, "a", false⟩).mp ⟨hrest ▸ by simp, rfl⟩).1

end Grammar

end LineScopes
