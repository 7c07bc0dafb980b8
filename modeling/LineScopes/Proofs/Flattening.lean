/-
What the tokens of a match say.

The groups of a match may overlap, cross each other and stick out of it, and the scopes of
some may be the same.  Its tokens say of every byte which scopes lie over it, and no fewer
tokens can.

* `Describes` — tokens that cover a stretch and have, over each byte, the scopes given for it;
* `Describes.length_le` — if neighbours differ, no description is shorter;
* `Layers.le_or_le_of_mem_between` — a piece lies wholly inside or wholly outside a layer, so
  that the layers over it are those over any of its bytes;
* `Layers.describes_join` and `isChain_join` — joining keeps a description one, and makes
  neighbours differ;
* `Layers.tokens_exact_and_fewest` — the tokens of a match.
-/
import LineScopes.Proofs.Tiling
import Mathlib.Data.List.Chain
import Mathlib.Data.List.Perm.Subperm

namespace LineScopes

/-! ### Bytes of tilings -/

namespace Tiles

variable {spans : List Span}

/-- The spans of a tiling are not empty and do not leave what they cover. -/
theorem bounds_of_mem {s : Span} {stop : Nat} (hs : s ∈ spans) :
    ∀ {start : Nat}, Tiles start stop spans →
      start ≤ s.start ∧ s.start < s.stop ∧ s.stop ≤ stop := by
  induction spans with
  | nil => cases hs
  | cons u us ih =>
    rintro start ⟨hstart, hlt, hrest⟩
    rcases List.mem_cons.mp hs with rfl | hs
    · exact ⟨Nat.le_of_eq hstart.symm, hlt, hrest.le⟩
    · obtain ⟨hfirst, hne, hlast⟩ := ih hs hrest
      exact ⟨by omega, hne, hlast⟩

/-- Every byte that is covered is in one of the spans. -/
theorem exists_contains {b stop : Nat} (hstop : b < stop) :
    ∀ {start : Nat}, Tiles start stop spans → start ≤ b → ∃ s ∈ spans, s.contains b = true := by
  induction spans with
  | nil =>
    rintro start rfl hstart
    omega
  | cons s ss ih =>
    rintro start ⟨rfl, hlt, hrest⟩ hstart
    by_cases hb : b < s.stop
    · exact ⟨s, List.mem_cons_self .., Span.contains_iff.mpr ⟨hstart, hb⟩⟩
    · obtain ⟨u, hu, hcontains⟩ := ih hrest (Nat.le_of_not_lt hb)
      exact ⟨u, List.mem_cons_of_mem s hu, hcontains⟩

/-- The spans of a tiling begin at different places. -/
theorem nodup_starts {stop : Nat} :
    ∀ {start : Nat}, Tiles start stop spans → (spans.map Span.start).Nodup := by
  induction spans with
  | nil => exact fun _ => .nil
  | cons s ss ih =>
    rintro start ⟨-, hlt, hrest⟩
    refine List.nodup_cons.mpr ⟨fun hmem => ?_, ih hrest⟩
    obtain ⟨u, hu, heq⟩ := List.mem_map.mp hmem
    have hle := (hrest.bounds_of_mem hu).1
    omega

end Tiles

/-! ### Descriptions -/

/-- The tokens cover the stretch from `start` to `stop`, and each of them has the scopes that are
given for its bytes. -/
structure Describes (scopes : Nat → List ScopeName) (start stop : Nat) (ts : List Token) :
    Prop where
  tiles : Tiles start stop (ts.map Token.span)
  scopes_eq : ∀ t ∈ ts, ∀ b, t.span.contains b = true → t.scopes = scopes b

namespace Describes

variable {scopes : Nat → List ScopeName} {start stop : Nat} {ts us : List Token}

/-- Over every byte there is a token with the scopes given for it. -/
theorem exists_token (h : Describes scopes start stop ts) {b : Nat} (hstart : start ≤ b)
    (hstop : b < stop) : ∃ t ∈ ts, t.span.contains b = true ∧ t.scopes = scopes b := by
  obtain ⟨s, hs, hcontains⟩ := h.tiles.exists_contains hstop hstart
  obtain ⟨t, ht, rfl⟩ := List.mem_map.mp hs
  exact ⟨t, ht, hcontains, h.scopes_eq t ht b hcontains⟩

theorem tail {t : Token} (h : Describes scopes start stop (t :: ts)) :
    Describes scopes t.span.stop stop ts :=
  ⟨h.tiles.2.2, fun u hu => h.scopes_eq u (List.mem_cons_of_mem t hu)⟩

/-- Only what is given for the bytes that are covered matters. -/
theorem congr {scopes' : Nat → List ScopeName} (h : Describes scopes start stop ts)
    (heq : ∀ b, start ≤ b → b < stop → scopes b = scopes' b) :
    Describes scopes' start stop ts := by
  refine ⟨h.tiles, fun t ht b hb => (h.scopes_eq t ht b hb).trans ?_⟩
  obtain ⟨hfirst, hlast⟩ := Span.contains_iff.mp hb
  have hbounds := h.tiles.bounds_of_mem (List.mem_map_of_mem ht)
  exact heq b (by omega) (by omega)

/-- A token begins at every place where other scopes are given than for the byte before. -/
theorem mem_starts (h : Describes scopes start stop ts) {b : Nat} (hstart : start ≤ b)
    (hstop : b < stop) (hchange : b = start ∨ scopes (b - 1) ≠ scopes b) :
    b ∈ ts.map (·.span.start) := by
  obtain ⟨t, ht, hcontains, hscopes⟩ := h.exists_token hstart hstop
  obtain ⟨hle, hlt⟩ := Span.contains_iff.mp hcontains
  have hfirst := (h.tiles.bounds_of_mem (List.mem_map_of_mem ht)).1
  refine List.mem_map.mpr ⟨t, ht, ?_⟩
  rcases hchange with rfl | hchange
  · exact Nat.le_antisymm hle hfirst
  · -- If the token began earlier, it would have the byte before in it too.
    by_contra hne
    have hbefore : t.span.contains (b - 1) = true := Span.contains_iff.mpr (by omega)
    exact hchange ((h.scopes_eq t ht _ hbefore).symm.trans hscopes)

/-- If neighbours differ, then tokens begin at such places only. -/
theorem change_of_mem_starts (hchain : ts.IsChain (·.scopes ≠ ·.scopes)) {b : Nat}
    (hb : b ∈ ts.map (·.span.start)) :
    ∀ {start : Nat}, Describes scopes start stop ts → b = start ∨ scopes (b - 1) ≠ scopes b := by
  induction ts with
  | nil => cases hb
  | cons t ts ih =>
    intro start h
    rcases List.mem_cons.mp hb with rfl | hb
    · exact .inl h.tiles.1
    · right
      rcases ih hchain.of_cons hb h.tail with rfl | hchange
      · -- The place is the end of `t`, so that the bytes on its sides are in neighbours.
        cases ts with
        | nil => cases hb
        | cons u us =>
          obtain ⟨-, hlt, hu, hult, -⟩ := h.tiles
          have ht : t.scopes = scopes (t.span.stop - 1) :=
            h.scopes_eq t (List.mem_cons_self ..) _ (Span.contains_iff.mpr (by omega))
          have hu : u.scopes = scopes t.span.stop :=
            h.scopes_eq u (by simp) _ (Span.contains_iff.mpr (by omega))
          rw [← ht, ← hu]
          exact hchain.rel
      · exact hchange

/-- So a description in which neighbours differ is one of the shortest. -/
theorem length_le (h : Describes scopes start stop ts)
    (hchain : ts.IsChain (·.scopes ≠ ·.scopes)) (h' : Describes scopes start stop us) :
    ts.length ≤ us.length := by
  have hnodup : (ts.map (·.span.start)).Nodup := by
    have hstarts := h.tiles.nodup_starts
    rwa [List.map_map] at hstarts
  have hsub : ts.map (·.span.start) ⊆ us.map (·.span.start) := by
    intro b hb
    obtain ⟨t, ht, rfl⟩ := List.mem_map.mp hb
    have hbounds := h.tiles.bounds_of_mem (List.mem_map_of_mem ht)
    exact h'.mem_starts hbounds.1 (by omega) (change_of_mem_starts hchain hb h)
  calc ts.length = (ts.map (·.span.start)).length := (List.length_map _).symm
    _ ≤ (us.map (·.span.start)).length := (List.subperm_of_subset hnodup hsub).length_le
    _ = us.length := List.length_map _

end Describes

/-! ### Joining -/

namespace Layers

variable {scopes : Nat → List ScopeName} {ts : List Token}

theorem tiles_join {start stop : Nat} (h : Tiles start stop (ts.map Token.span)) :
    Tiles start stop ((join ts).map Token.span) :=
  (partition_join (P := fun _ => True) ⟨h, fun _ _ => ⟨trivial, trivial⟩⟩).tiles

/-- The tokens that come of joining have the scopes given for their bytes if those joined had. -/
theorem scopes_eq_of_mem_join
    (hscopes : ∀ t ∈ ts, ∀ b, t.span.contains b = true → t.scopes = scopes b) :
    ∀ t ∈ join ts, ∀ b, t.span.contains b = true → t.scopes = scopes b := by
  induction ts with
  | nil => exact hscopes
  | cons t ts ih =>
    have ht := hscopes t (List.mem_cons_self ..)
    have hjoin := ih fun u hu => hscopes u (List.mem_cons_of_mem t hu)
    rw [join]
    split
    · intro v hv
      obtain rfl := List.mem_singleton.mp hv
      exact ht
    · next u us hcons =>
      rw [hcons] at hjoin
      split
      · next hmeet =>
        obtain ⟨hstop, heq⟩ := hmeet
        intro v hv b hb
        rcases List.mem_cons.mp hv with rfl | hv
        · -- A byte of the two together is one of the first or one of the second.
          obtain ⟨hfirst, hlast⟩ := Span.contains_iff.mp hb
          by_cases hlt : b < t.span.stop
          · exact ht b (Span.contains_iff.mpr ⟨hfirst, hlt⟩)
          · have hu : u.span.contains b = true := Span.contains_iff.mpr ⟨by omega, hlast⟩
            exact heq.trans (hjoin u (List.mem_cons_self ..) b hu)
        · exact hjoin v (List.mem_cons_of_mem u hv) b hb
      · intro v hv
        rcases List.mem_cons.mp hv with rfl | hv
        · exact ht
        · exact hjoin v hv

theorem describes_join {start stop : Nat} (h : Describes scopes start stop ts) :
    Describes scopes start stop (join ts) :=
  ⟨tiles_join h.tiles, scopes_eq_of_mem_join h.scopes_eq⟩

/-- No two neighbours are alike when those that touch have been joined. -/
theorem isChain_join {stop : Nat} :
    ∀ {start : Nat}, Tiles start stop (ts.map Token.span) →
      (join ts).IsChain (·.scopes ≠ ·.scopes) := by
  induction ts with
  | nil => exact fun _ => .nil
  | cons t ts ih =>
    rintro start ⟨-, -, hrest⟩
    have hchain := ih hrest
    have htiles := tiles_join hrest
    rw [join]
    split
    · exact List.isChain_singleton _
    · next u us hcons =>
      rw [hcons] at hchain htiles
      have htouch : u.span.start = t.span.stop := htiles.1
      split
      · next hmeet =>
        cases us with
        | nil => exact List.isChain_singleton _
        | cons v vs =>
          refine List.isChain_cons_cons.mpr ⟨?_, hchain.of_cons⟩
          exact hmeet.2 ▸ hchain.rel
      · next hnot =>
        exact List.isChain_cons_cons.mpr ⟨fun heq => hnot ⟨htouch.symm, heq⟩, hchain⟩

/-! ### Cutting -/

/-- Between neighbours of ascending places lies none of the places. -/
theorem le_or_le_of_mem_between {s : Span} {ns : List Nat} (hasc : ns.Pairwise (· < ·))
    (hs : s ∈ between ns) : ∀ n ∈ ns, n ≤ s.start ∨ s.stop ≤ n := by
  fun_induction between ns with
  | case1 k m ns ih =>
    have hlater : ∀ n ∈ ns, m < n := fun n hn => List.rel_of_pairwise_cons hasc.of_cons hn
    rcases List.mem_cons.mp hs with rfl | hs
    · intro n hn
      rcases List.mem_cons.mp hn with rfl | hn
      · exact .inl (Nat.le_refl _)
      · rcases List.mem_cons.mp hn with rfl | hn
        · exact .inr (Nat.le_refl _)
        · exact .inr (Nat.le_of_lt (hlater n hn))
    · intro n hn
      have hrest : s ∈ between (m :: ns) := hs
      rcases List.mem_cons.mp hn with rfl | hn
      · exact .inl (Nat.le_of_lt (List.rel_of_pairwise_cons hasc (mem_of_mem_between hrest).1))
      · exact ih hasc.of_cons hrest n hn
  | case2 ns hshort => cases hs

/-- A layer lies over a piece if it lies over one byte of it. -/
theorem covers_eq_contains {ls : List Layer} {l : Layer} {s : Span} {b : Nat} (hl : l ∈ ls)
    (hs : s ∈ between (bounds ls)) (hb : s.contains b = true) :
    l.span.covers s = l.span.contains b := by
  obtain ⟨hfirst, hlast⟩ := Span.contains_iff.mp hb
  have houtside := le_or_le_of_mem_between (pairwise_bounds ls) hs
  have hstart := houtside l.span.start (mem_bounds.mpr ⟨l, hl, .inl rfl⟩)
  have hstop := houtside l.span.stop (mem_bounds.mpr ⟨l, hl, .inr rfl⟩)
  rw [Bool.eq_iff_iff, Span.contains_iff, Span.covers, Bool.and_eq_true, decide_eq_true_iff,
    decide_eq_true_iff]
  omega

/-- The scopes over a byte, when layers lie on the ambient scopes. -/
def scopesOverByte (ambient : List ScopeName) (ls : List Layer) (b : Nat) : List ScopeName :=
  ambient ++ (ls.filter (·.span.contains b)).filterMap Layer.scope

theorem scopesOver_eq_scopesOverByte (ambient : List ScopeName) {ls : List Layer} {s : Span}
    {b : Nat} (hs : s ∈ between (bounds ls)) (hb : s.contains b = true) :
    scopesOver ambient ls s = scopesOverByte ambient ls b := by
  have hlayers : ls.filter (fun l => l.span.covers s) = ls.filter (·.span.contains b) :=
    List.filter_congr fun l hl => covers_eq_contains hl hs hb
  rw [scopesOver, hlayers, scopesOverByte]

/-- The pieces of layers describe the scopes over the bytes. -/
theorem describes_pieces (ambient : List ScopeName) {ls : List Layer} {start stop : Nat}
    (h : Tiles start stop (between (bounds ls))) :
    Describes (scopesOverByte ambient ls) start stop
      ((between (bounds ls)).map fun s => ⟨s, scopesOver ambient ls s⟩) := by
  refine ⟨tiles_pieces ambient h, fun t ht b hb => ?_⟩
  obtain ⟨s, hs, rfl⟩ := List.mem_map.mp ht
  exact scopesOver_eq_scopesOverByte ambient hs hb

/-! ### Matches -/

/-- The scopes over a byte of a match: the ambient ones, that of the match, and those of the groups
that have the byte in them, in the order of their numbers. -/
def scopesAt (found : Match) (ambient : List ScopeName) (bottom : Option ScopeName)
    (captures : Captures) (b : Nat) : List ScopeName :=
  ambient ++ bottom.toList ++
    (captures.entries.filter fun c => (found.group? c.1).any (·.contains b)).map Prod.snd

/-- Inside the match, what is clipped to it has the same bytes. -/
theorem contains_clip {s outer : Span} {b : Nat} (hb : outer.contains b = true) :
    (s.clip outer).contains b = s.contains b := by
  obtain ⟨hfirst, hlast⟩ := Span.contains_iff.mp hb
  rw [Bool.eq_iff_iff, Span.contains_iff, Span.contains_iff, Span.clip]
  dsimp only
  omega

/-- A group lays its scope over those bytes of the match that are in it. -/
theorem groupLayer?_over {found : Match} (c : Nat × ScopeName) {b : Nat}
    (hb : found.span.contains b = true) :
    ((groupLayer? found c).filter (·.span.contains b)).bind Layer.scope =
      if (found.group? c.1).any (·.contains b) then some c.2 else none := by
  rw [groupLayer?]
  cases found.group? c.1 with
  | none => rfl
  | some s =>
    rw [Option.bind_some, Option.any_some, ← contains_clip hb]
    dsimp only
    split
    · next hempty =>
      -- There is no layer, and no byte in the group either.
      have hnot : (s.clip found.span).contains b = false := by
        rw [Span.isEmpty, decide_eq_true_iff] at hempty
        rw [Bool.eq_false_iff, ne_eq, Span.contains_iff]
        omega
      rw [hnot]
      rfl
    · rw [Option.filter_some]
      dsimp only
      split
      · rfl
      · rfl

theorem scopesOverByte_layers {found : Match} (ambient : List ScopeName)
    (bottom : Option ScopeName) (captures : Captures) {b : Nat}
    (hb : found.span.contains b = true) :
    scopesOverByte ambient (layers found bottom captures) b =
      scopesAt found ambient bottom captures b := by
  have hgroups :
      ((captures.entries.filterMap (groupLayer? found)).filter
          (·.span.contains b)).filterMap Layer.scope =
        (captures.entries.filter fun c => (found.group? c.1).any (·.contains b)).map Prod.snd := by
    rw [List.filter_filterMap, List.filterMap_filterMap, ← List.filterMap_eq_map,
      List.filterMap_filter]
    exact List.filterMap_congr fun c _ => groupLayer?_over c hb
  have hfirst : (layers found bottom captures).filter (·.span.contains b) =
      ⟨found.span, bottom⟩ ::
        (captures.entries.filterMap (groupLayer? found)).filter (·.span.contains b) :=
    List.filter_cons_of_pos hb
  rw [scopesOverByte, hfirst, scopesAt, List.append_assoc, ← hgroups]
  cases bottom with
  | none => rfl
  | some name => rfl

/-- The tokens of a match cover it, none of them empty.  Over each byte they have the ambient
scopes, that of the match and those of the groups with the byte in them.  No two neighbours have
the same scopes, and no fewer tokens would say the same. -/
theorem tokens_exact_and_fewest {found : Match} (hle : found.span.start ≤ found.span.stop)
    (ambient : List ScopeName) (bottom : Option ScopeName) (captures : Captures) :
    let ts := tokens ambient (layers found bottom captures)
    let scopes := scopesAt found ambient bottom captures
    Describes scopes found.span.start found.span.stop ts ∧
      (ts = [] ↔ found.span.start = found.span.stop) ∧
      (∀ b, found.span.start ≤ b → b < found.span.stop →
        ∃ t ∈ ts, t.span.contains b = true ∧ t.scopes = scopes b) ∧
      ts.IsChain (·.scopes ≠ ·.scopes) ∧
      ∀ us, Describes scopes found.span.start found.span.stop us → ts.length ≤ us.length := by
  intro ts scopes
  have htiles : Tiles found.span.start found.span.stop
      (between (bounds (layers found bottom captures))) :=
    tiles_bounds ⟨found.span, bottom⟩ (List.mem_cons_self ..)
      fun n hn => (bounds_layers hle hn).1
  have hpieces := (describes_pieces ambient htiles).congr fun b hstart hstop =>
    scopesOverByte_layers ambient bottom captures (Span.contains_iff.mpr ⟨hstart, hstop⟩)
  have hts : Describes scopes found.span.start found.span.stop ts := describes_join hpieces
  have hchain : ts.IsChain (·.scopes ≠ ·.scopes) := isChain_join hpieces.tiles
  refine ⟨hts, ?_, fun b => hts.exists_token, hchain, fun us => hts.length_le hchain⟩
  rw [← hts.tiles.eq_nil_iff, List.map_eq_nil_iff]

/-- Groups that cross, that stick out of the match on both sides or lie outside it, a reversed one,
one that took no part, and two neighbours of the same name. -/
theorem tokens_exact_and_fewest_of_crossing_groups :
    let found : Match := ⟨⟨2, 12⟩, [some ⟨0, 6⟩, none, some ⟨4, 9⟩, some ⟨9, 3⟩, some ⟨9, 20⟩,
      some ⟨14, 16⟩]⟩
    let captures := Captures.ofList [(5, .ofString "b"), (3, .ofString "b"), (1, .ofString "a"),
      (2, .ofString "x"), (4, .ofString "x"), (6, .ofString "x"), (7, .ofString "x")]
    let scopes := scopesAt found [.ofString "text"] (some (.ofString "m")) captures
    found.span.start ≤ found.span.stop ∧
      (tokens [.ofString "text"] (layers found (some (.ofString "m")) captures)).map
          (fun t => (t.span, t.scopes.map ScopeName.toText)) =
        [(⟨2, 4⟩, ["text", "m", "a"]), (⟨4, 6⟩, ["text", "m", "a", "b"]),
          (⟨6, 12⟩, ["text", "m", "b"])] ∧
      ∀ us, Describes scopes 2 12 us → 3 ≤ us.length := by
  intro found captures scopes
  have hle : found.span.start ≤ found.span.stop := by decide
  have htokens : (tokens [.ofString "text"] (layers found (some (.ofString "m")) captures)).map
      (fun t => (t.span, t.scopes.map ScopeName.toText)) =
        [(⟨2, 4⟩, ["text", "m", "a"]), (⟨4, 6⟩, ["text", "m", "a", "b"]),
          (⟨6, 12⟩, ["text", "m", "b"])] := by
    decide +kernel
  obtain ⟨-, -, -, -, hfewest⟩ :=
    tokens_exact_and_fewest hle [.ofString "text"] (some (.ofString "m")) captures
  refine ⟨hle, htokens, fun us hus => ?_⟩
  have hlength := hfewest us hus
  rwa [← List.length_map (fun t => (t.span, t.scopes.map ScopeName.toText)), htokens] at hlength

end Layers

end LineScopes
