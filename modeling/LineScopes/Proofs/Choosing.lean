/-
Which plan is chosen.

* `Engine.Finds` — what a search for a pattern finds;
* `Engine.SearchesForward`, `Engine.StaysInLine` — engines whose matches begin where the
  search does or later, and engines whose matches also lie in the line;
* `Engine.FindsFirst` — engines that find, of the matches that a pattern has in a line, the
  first one they can;
* `Engine.verdict` — the choice in one sentence: the error of the first plan whose
  pattern does not compile, or else the match that begins first, the earlier plan among
  equals; `yields_choose` says that choosing comes to it;
* `offers_of_verdict` — what is chosen is a match of one of the plans;
* `verdict_eraseDups` — plans that occur again make no difference.
-/
import LineScopes.Proofs.HeldPatterns
import Mathlib.Data.List.MinMax

namespace LineScopes.Engine

variable {ε M : Type}

/-! ### What is asked of an engine -/

/-- A search for the pattern in the line from a byte on finds the match. -/
def Finds (engine : Engine ε M) (pattern line : String) (start : Nat) (found : Match) : Prop :=
  ∃ m, engine.compile pattern = .ok m ∧ engine.search m line start = some found

/-- No match begins before the search does. -/
def SearchesForward (engine : Engine ε M) : Prop :=
  ∀ ⦃pattern line start found⦄, engine.Finds pattern line start found → start ≤ found.span.start

/-- Every match begins where the search does or later, is not reversed, and ends in the line.
Nothing is asked of its groups. -/
def StaysInLine (engine : Engine ε M) : Prop :=
  ∀ ⦃pattern line start found⦄, engine.Finds pattern line start found →
    start ≤ found.span.start ∧ found.span.start ≤ found.span.stop ∧
      found.span.stop ≤ line.utf8ByteSize

/-- In every line a pattern has one match at most that begins at a given byte, and a search finds
the first of them that begins where the search does or later. -/
def FindsFirst (engine : Engine ε M) : Prop :=
  ∀ ⦃pattern m⦄, engine.compile pattern = .ok m → ∀ line : String,
    ∃ matchAt : Nat → Option Match,
      (∀ i found, matchAt i = some found → found.span.start = i) ∧
      ∀ start found, engine.search m line start = some found ↔
        start ≤ found.span.start ∧ matchAt found.span.start = some found ∧
          ∀ i, start ≤ i → i < found.span.start → matchAt i = none

theorem StaysInLine.searchesForward {engine : Engine ε M} (h : engine.StaysInLine) :
    engine.SearchesForward :=
  fun _ _ _ _ hfinds => (h hfinds).1

theorem FindsFirst.searchesForward {engine : Engine ε M} (h : engine.FindsFirst) :
    engine.SearchesForward := by
  intro pattern line start found hfinds
  obtain ⟨m, hm, hfound⟩ := hfinds
  obtain ⟨matchAt, -, hsearch⟩ := h hm line
  exact ((hsearch start found).mp hfound).1

/-! ### The verdict -/

/-- The error with which the engine refuses a plan's pattern, if it does. -/
def refusal? (engine : Engine ε M) (p : Plan) : Option ε :=
  match engine.compile p.pattern with
  | .ok _ => none
  | .error e => some e

/-- What a plan has to offer in a line from a byte on. -/
def candidate? (engine : Engine ε M) (line : String) (start : Nat) (p : Plan) : Option Choice :=
  match engine.compile p.pattern with
  | .ok m => (engine.search m line start).map fun found => ⟨p.kind, p.rule, found⟩
  | .error _ => none

/-- Of the best choice so far and another one, that which begins first, or else the former. -/
abbrev better : Option Choice → Choice → Option Choice :=
  List.argAux fun c b => c.found.span.start < b.found.span.start

theorem better_some (b c : Choice) :
    better (some b) c = if c.found.span.start < b.found.span.start then some c else some b := rfl

/-- The error of the first plan that is refused, or else the candidate that begins first, the
earlier one among equals. -/
def verdict (engine : Engine ε M) (plans : List Plan) (line : String) (start : Nat) :
    Except ε (Option Choice) :=
  match plans.findSome? engine.refusal? with
  | some e => .error e
  | none =>
    .ok ((plans.filterMap (engine.candidate? line start)).argmin fun c => c.found.span.start)

theorem yields_prepare (engine : Engine ε M) (plans : List Plan) :
    engine.Yields (engine.prepare plans)
      (match plans.findSome? engine.refusal? with
        | some e => .error e
        | none => .ok ()) := by
  induction plans with
  | nil => exact yields_pure engine ()
  | cons p ps ih =>
    cases hm : engine.compile p.pattern with
    | ok m =>
      have hp : engine.Yields (engine.planMatcher p) (.ok m) := hm ▸ yields_planMatcher engine p
      rw [List.findSome?_cons, show engine.refusal? p = none by rw [refusal?, hm]]
      exact hp.bind fun _ _ => ih
    | error e =>
      have hp : engine.Yields (engine.planMatcher p) (.error e) := hm ▸ yields_planMatcher engine p
      rw [List.findSome?_cons, show engine.refusal? p = some e by rw [refusal?, hm]]
      exact hp.bind fun _ _ => ih

/-- Nothing is better than what begins first. -/
theorem foldl_better_of_le {b : Choice} {cs : List Choice}
    (h : ∀ c ∈ cs, b.found.span.start ≤ c.found.span.start) :
    cs.foldl better (some b) = some b := by
  induction cs with
  | nil => rfl
  | cons c cs ih =>
    obtain ⟨hc, hcs⟩ := List.forall_mem_cons.mp h
    rw [List.foldl_cons, better_some, if_neg (by omega)]
    exact ih hcs

/-- The choice is a match that a search for the pattern of one of the plans finds. -/
def Offers (engine : Engine ε M) (plans : List Plan) (line : String) (start : Nat) (c : Choice) :
    Prop :=
  ∃ p ∈ plans, c.kind = p.kind ∧ c.rule = p.rule ∧ engine.Finds p.pattern line start c.found

theorem offers_of_candidate {engine : Engine ε M} {line : String} {start : Nat}
    {plans : List Plan} {c : Choice} (hc : c ∈ plans.filterMap (engine.candidate? line start)) :
    engine.Offers plans line start c := by
  obtain ⟨p, hp, hcand⟩ := List.mem_filterMap.mp hc
  unfold candidate? at hcand
  split at hcand
  · rename_i m hm
    obtain ⟨found, hfound, rfl⟩ := Option.map_eq_some_iff.mp hcand
    exact ⟨p, hp, rfl, rfl, m, hm, hfound⟩
  · cases hcand

/-- What is chosen is a match of one of the plans. -/
theorem offers_of_verdict {engine : Engine ε M} {line : String} {start : Nat}
    {plans : List Plan} {c : Choice} (h : engine.verdict plans line start = .ok (some c)) :
    engine.Offers plans line start c := by
  unfold verdict at h
  split at h
  · cases h
  · exact offers_of_candidate (List.argmin_mem (Except.ok.inj h))

theorem start_le_of_candidate {engine : Engine ε M} (hforward : engine.SearchesForward)
    {line : String} {start : Nat} {plans : List Plan} {c : Choice}
    (hc : c ∈ plans.filterMap (engine.candidate? line start)) : start ≤ c.found.span.start := by
  obtain ⟨p, -, -, -, hfound⟩ := offers_of_candidate hc
  exact hforward hfound

/-- Stopping at a match that begins at the start loses nothing: the search comes to the best of
all candidates. -/
theorem yields_earliest {engine : Engine ε M} (hforward : engine.SearchesForward) (line : String)
    (start : Nat) {plans : List Plan} (hplans : ∀ p ∈ plans, engine.refusal? p = none) :
    ∀ best, engine.Yields (engine.earliest line start best plans)
      (.ok ((plans.filterMap (engine.candidate? line start)).foldl better best)) := by
  induction plans with
  | nil => exact fun best => yields_pure engine best
  | cons p ps ih =>
    intro best
    obtain ⟨hp, hps⟩ := List.forall_mem_cons.mp hplans
    cases hm : engine.compile p.pattern with
    | error e => simp [refusal?, hm] at hp
    | ok m =>
      have hmatcher : engine.Yields (engine.planMatcher p) (.ok m) :=
        hm ▸ yields_planMatcher engine p
      refine hmatcher.bind (g := fun _ => .ok _) fun m' hm' => ?_
      obtain rfl := Except.ok.inj hm'
      refine (yields_report engine _).bind (g := fun _ => .ok _) fun _ _ => ?_
      cases hs : engine.search m line start with
      | none =>
        rw [List.filterMap_cons_none (by simp [candidate?, hm, hs])]
        exact ih hps best
      | some found =>
        rw [List.filterMap_cons_some (b := ⟨p.kind, p.rule, found⟩)
          (by simp [candidate?, hm, hs]), List.foldl_cons]
        by_cases hbest : best.all fun b => found.span.start < b.found.span.start
        · have hnew : better best ⟨p.kind, p.rule, found⟩ = some ⟨p.kind, p.rule, found⟩ := by
            cases best with
            | none => rfl
            | some b =>
              simp only [Option.all_some, decide_eq_true_eq] at hbest
              rw [better_some, if_pos hbest]
          simp only [hbest, if_true, hnew]
          split
          · -- The search ends here; no candidate to come begins before the start.
            rename_i hstart
            rw [foldl_better_of_le fun c hc => hstart ▸ start_le_of_candidate hforward hc]
            exact yields_pure engine _
          · exact ih hps _
        · have hold : better best ⟨p.kind, p.rule, found⟩ = best := by
            cases best with
            | none => simp at hbest
            | some b =>
              simp only [Option.all_some, decide_eq_true_eq] at hbest
              rw [better_some, if_neg hbest]
          simp only [hbest, hold]
          exact ih hps best

/-- On a coherent cache, choosing comes to the verdict. -/
theorem yields_choose {engine : Engine ε M} (hforward : engine.SearchesForward)
    (plans : List Plan) (line : String) (start : Nat) :
    engine.Yields (engine.choose plans line start) (engine.verdict plans line start) := by
  have hprepare := yields_prepare engine plans
  unfold verdict
  cases hr : plans.findSome? engine.refusal? with
  | some e =>
    rw [hr] at hprepare
    exact hprepare.bind (g := fun _ => .error e) fun _ hu => nomatch hu
  | none =>
    rw [hr] at hprepare
    exact hprepare.bind (g := fun _ => .ok _) fun _ _ =>
      yields_earliest hforward line start (List.findSome?_eq_none_iff.mp hr) none

/-! ### Plans that occur again -/

/-- What beats a plan's candidate is not beaten by it later. -/
def Beats (best : Option Choice) (candidate : Option Choice) : Prop :=
  ∀ c, candidate = some c → ∃ b, best = some b ∧ b.found.span.start ≤ c.found.span.start

theorem beats_better (best : Option Choice) (c : Choice) : Beats (better best c) (some c) := by
  intro d hd
  obtain rfl := Option.some.inj hd
  cases best with
  | none => exact ⟨c, rfl, le_refl _⟩
  | some b =>
    rw [better_some]
    split
    · exact ⟨c, rfl, le_refl _⟩
    · exact ⟨b, rfl, by omega⟩

theorem Beats.better {best candidate : Option Choice} (h : Beats best candidate) (d : Choice) :
    Beats (better best d) candidate := by
  intro c hc
  obtain ⟨b, rfl, hb⟩ := h c hc
  rw [better_some]
  split
  · exact ⟨d, rfl, by omega⟩
  · exact ⟨b, rfl, hb⟩

theorem Beats.better_eq {best : Option Choice} {c : Choice} (h : Beats best (some c)) :
    Engine.better best c = best := by
  obtain ⟨b, rfl, hb⟩ := h c rfl
  rw [better_some, if_neg (by omega)]

/-- Where a plan's candidate is beaten already, the plan may be left out. -/
theorem foldl_better_filter {f : Plan → Option Choice} {p : Plan} {plans : List Plan} :
    ∀ {best}, Beats best (f p) →
      ((plans.filter fun q => !q == p).filterMap f).foldl better best =
        (plans.filterMap f).foldl better best := by
  induction plans with
  | nil => exact fun _ => rfl
  | cons q ps ih =>
    intro best h
    by_cases hq : q = p
    · subst hq
      rw [List.filter_cons_of_neg (by simp)]
      cases hf : f q with
      | none => rw [List.filterMap_cons_none hf, ih h]
      | some c =>
        have hc : Beats best (some c) := hf ▸ h
        rw [List.filterMap_cons_some hf, List.foldl_cons, hc.better_eq, ih h]
    · rw [List.filter_cons_of_pos (by simpa using hq)]
      cases hf : f q with
      | none => rw [List.filterMap_cons_none hf, List.filterMap_cons_none hf, ih h]
      | some c =>
        rw [List.filterMap_cons_some hf, List.filterMap_cons_some hf, List.foldl_cons,
          List.foldl_cons, ih (h.better c)]

/-- Induction along the first occurrences of plans: what holds of the later plans without the first
one holds of all of them. -/
theorem induction_eraseDups {P : List Plan → Prop} (nil : P [])
    (cons : ∀ p ps, P (ps.filter fun q => !q == p) → P (p :: ps)) (plans : List Plan) :
    P plans := by
  obtain ⟨n, hn⟩ : ∃ n, plans.length ≤ n := ⟨_, le_refl _⟩
  induction n generalizing plans with
  | zero =>
    obtain rfl : plans = [] := List.length_eq_zero_iff.mp (by omega)
    exact nil
  | succ n ih =>
    cases plans with
    | nil => exact nil
    | cons p ps =>
      have hle := List.length_filter_le (fun q => !q == p) ps
      rw [List.length_cons] at hn
      exact cons p ps (ih _ (by omega))

theorem foldl_better_eraseDups (f : Plan → Option Choice) (plans : List Plan) :
    ∀ best, (plans.eraseDups.filterMap f).foldl better best =
      (plans.filterMap f).foldl better best := by
  induction plans using induction_eraseDups with
  | nil => exact fun _ => rfl
  | cons p ps ih =>
    intro best
    rw [List.eraseDups_cons]
    cases hf : f p with
    | none =>
      rw [List.filterMap_cons_none hf, List.filterMap_cons_none hf, ih best]
      exact foldl_better_filter fun c hc => by simp [hf] at hc
    | some c =>
      rw [List.filterMap_cons_some hf, List.filterMap_cons_some hf, List.foldl_cons,
        List.foldl_cons, ih]
      exact foldl_better_filter (hf ▸ beats_better best c)

/-- Leaving out a plan with nothing to find changes nothing. -/
theorem findSome?_filter {β : Type} {f : Plan → Option β} {p : Plan} (hf : f p = none)
    (plans : List Plan) : (plans.filter fun q => !q == p).findSome? f = plans.findSome? f := by
  induction plans with
  | nil => rfl
  | cons q ps ih =>
    by_cases hq : q = p
    · subst hq
      rw [List.filter_cons_of_neg (by simp), List.findSome?_cons, hf, ih]
    · rw [List.filter_cons_of_pos (by simpa using hq), List.findSome?_cons, List.findSome?_cons, ih]

theorem findSome?_eraseDups {β : Type} (f : Plan → Option β) (plans : List Plan) :
    plans.eraseDups.findSome? f = plans.findSome? f := by
  induction plans using induction_eraseDups with
  | nil => rfl
  | cons p ps ih =>
    rw [List.eraseDups_cons, List.findSome?_cons, List.findSome?_cons]
    cases hf : f p with
    | some b => rfl
    | none => exact ih.trans (findSome?_filter hf ps)

/-- Only the first occurrences of plans count. -/
theorem verdict_eraseDups (engine : Engine ε M) (plans : List Plan) (line : String)
    (start : Nat) : engine.verdict plans.eraseDups line start = engine.verdict plans line start := by
  rw [verdict, verdict, findSome?_eraseDups]
  cases plans.findSome? engine.refusal? with
  | some e => rfl
  | none => exact congrArg Except.ok (foldl_better_eraseDups _ plans none)

/-- On coherent caches, lists with the same plans in the same order of first occurrence give the
same choice. -/
theorem result_choose_congr {engine : Engine ε M} (hforward : engine.SearchesForward)
    {ps qs : List Plan} (h : ps.eraseDups = qs.eraseDups) {c d : PatternCache M}
    (hc : engine.Coherent c) (hd : engine.Coherent d) (line : String) (start : Nat) :
    ((engine.choose ps line start).run c).result =
      ((engine.choose qs line start).run d).result := by
  rw [(yields_choose hforward ps line start c hc).1, (yields_choose hforward qs line start d hd).1,
    ← verdict_eraseDups, h, verdict_eraseDups]

end LineScopes.Engine
