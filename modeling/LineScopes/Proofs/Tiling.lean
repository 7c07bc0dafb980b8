/-
Tokens that cover a stretch of text.

The tokens of a match cover it, and cut it only at places where the match or a group of
it begins or ends.  If these places lie between characters, the texts of the tokens make
up the text.

* `Tiles` — spans that follow each other from one place to another, none of them empty;
* `partition_tokens` — the pieces of layers that lie over one of them;
* `partition_matchTokens` — the tokens of a match;
* `exists_texts_of_tiles` — the texts of the tokens.
-/
import LineScopes.Proofs.SpanTexts
import LineScopes.Tokenizer

namespace LineScopes

/-! ### Partitions -/

/-- The spans follow each other from `start` to `stop`, and none of them is empty. -/
def Tiles (start stop : Nat) : List Span → Prop
  | [] => start = stop
  | s :: ss => s.start = start ∧ s.start < s.stop ∧ Tiles s.stop stop ss

theorem Tiles.le {spans : List Span} :
    ∀ {start stop : Nat}, Tiles start stop spans → start ≤ stop := by
  induction spans with
  | nil => exact fun h => Nat.le_of_eq h
  | cons s ss ih =>
    rintro start stop ⟨hstart, hlt, hrest⟩
    have hle := ih hrest
    omega

theorem Tiles.append {spans spans' : List Span} {middle stop : Nat} :
    ∀ {start : Nat}, Tiles start middle spans → Tiles middle stop spans' →
      Tiles start stop (spans ++ spans') := by
  induction spans with
  | nil =>
    rintro start rfl h'
    exact h'
  | cons s ss ih =>
    rintro start ⟨hstart, hlt, hrest⟩ h'
    exact ⟨hstart, hlt, ih hrest h'⟩

/-- Nothing is covered by no span only. -/
theorem Tiles.eq_nil_iff {spans : List Span} {start stop : Nat} (h : Tiles start stop spans) :
    spans = [] ↔ start = stop := by
  cases spans with
  | nil => exact iff_of_true rfl h
  | cons s ss =>
    obtain ⟨hstart, hlt, hrest⟩ := h
    have hle := hrest.le
    exact iff_of_false (List.cons_ne_nil s ss) (by omega)

/-- The tokens cover the text from `start` to `stop` and begin and end at places of the kind `P`
only. -/
structure Partition (P : Nat → Prop) (start stop : Nat) (ts : List Token) : Prop where
  tiles : Tiles start stop (ts.map Token.span)
  cuts : ∀ t ∈ ts, P t.span.start ∧ P t.span.stop

namespace Partition

variable {P : Nat → Prop}

theorem nil (P : Nat → Prop) (n : Nat) : Partition P n n [] := by
  refine ⟨rfl, fun t ht => ?_⟩
  cases ht

theorem append {start middle stop : Nat} {ts us : List Token} (h : Partition P start middle ts)
    (h' : Partition P middle stop us) : Partition P start stop (ts ++ us) := by
  constructor
  · rw [List.map_append]
    exact h.tiles.append h'.tiles
  · intro t ht
    rcases List.mem_append.mp ht with ht | ht
    · exact h.cuts t ht
    · exact h'.cuts t ht

/-- The text between two places is covered by its token. -/
theorem stretch {start stop : Nat} (hle : start ≤ stop) (hstart : P start) (hstop : P stop)
    (stack : StateStack) : Partition P start stop (stretch start stop stack) := by
  unfold LineScopes.stretch
  split
  · next hlt =>
    refine ⟨⟨rfl, hlt, rfl⟩, fun t ht => ?_⟩
    obtain rfl := List.mem_singleton.mp ht
    exact ⟨hstart, hstop⟩
  · next hnot =>
    obtain rfl : start = stop := by omega
    exact .nil P start

end Partition

/-! ### The pieces of layers -/

namespace Layers

theorem mem_insertBound {m n : Nat} {ns : List Nat} :
    m ∈ insertBound n ns ↔ m = n ∨ m ∈ ns := by
  fun_induction insertBound n ns with
  | case1 => simp
  | case2 k ks hlt => simp
  | case3 ks hnot => simp
  | case4 k ks hnot hne ih =>
    simp only [List.mem_cons, ih]
    exact or_left_comm

theorem pairwise_insertBound {n : Nat} {ns : List Nat} (h : ns.Pairwise (· < ·)) :
    (insertBound n ns).Pairwise (· < ·) := by
  fun_induction insertBound n ns with
  | case1 => exact List.pairwise_singleton _ _
  | case2 k ks hlt =>
    refine h.cons fun m hm => ?_
    rcases List.mem_cons.mp hm with rfl | hm
    · exact hlt
    · exact Nat.lt_trans hlt (List.rel_of_pairwise_cons h hm)
  | case3 ks hnot => exact h
  | case4 k ks hnot hne ih =>
    refine (ih h.of_cons).cons fun m hm => ?_
    rcases mem_insertBound.mp hm with rfl | hm
    · omega
    · exact List.rel_of_pairwise_cons h hm

/-- The bounds are the places where a layer begins or ends. -/
theorem mem_bounds {n : Nat} {ls : List Layer} :
    n ∈ bounds ls ↔ ∃ l ∈ ls, n = l.span.start ∨ n = l.span.stop := by
  induction ls with
  | nil => simp [bounds]
  | cons l ls ih =>
    show n ∈ insertBound l.span.start (insertBound l.span.stop (bounds ls)) ↔ _
    rw [mem_insertBound, mem_insertBound, ih, ← or_assoc]
    simp

theorem pairwise_bounds (ls : List Layer) : (bounds ls).Pairwise (· < ·) := by
  induction ls with
  | nil => exact .nil
  | cons l ls ih => exact pairwise_insertBound (pairwise_insertBound ih)

/-- The spans between ascending places lead from the first to the last of them. -/
theorem tiles_between {stop : Nat} {ns : List Nat} :
    ∀ {start : Nat}, ns.Pairwise (· < ·) → start ∈ ns → stop ∈ ns →
      (∀ n ∈ ns, start ≤ n ∧ n ≤ stop) → Tiles start stop (between ns) := by
  fun_induction between ns with
  | case1 m n ns ih =>
    intro start hasc hstart hstop hmem
    have hmn : m < n := List.rel_of_pairwise_cons hasc (List.mem_cons_self ..)
    have hm := hmem m (List.mem_cons_self ..)
    have hn := hmem n (by simp)
    -- `start` is the first of the places, since all behind the first are larger.
    obtain rfl : m = start := by
      rcases List.mem_cons.mp hstart with heq | htail
      · exact heq.symm
      · have hlt := List.rel_of_pairwise_cons hasc htail
        omega
    have hstop' : stop ∈ n :: ns := by
      rcases List.mem_cons.mp hstop with heq | htail
      · omega
      · exact htail
    refine ⟨rfl, hmn, ih hasc.of_cons (List.mem_cons_self ..) hstop' fun k hk => ?_⟩
    refine ⟨?_, (hmem k (List.mem_cons_of_mem m hk)).2⟩
    rcases List.mem_cons.mp hk with rfl | hk
    · exact Nat.le_refl _
    · exact Nat.le_of_lt (List.rel_of_pairwise_cons hasc.of_cons hk)
  | case2 ns hshort =>
    intro start _ hstart hstop _
    rcases ns with _ | ⟨n, _ | ⟨m, ns⟩⟩
    · cases hstart
    · exact (List.mem_singleton.mp hstart).trans (List.mem_singleton.mp hstop).symm
    · exact absurd rfl (hshort n m ns)

theorem mem_of_mem_between {s : Span} {ns : List Nat} (h : s ∈ between ns) :
    s.start ∈ ns ∧ s.stop ∈ ns := by
  fun_induction between ns with
  | case1 m n ns ih =>
    rcases List.mem_cons.mp h with rfl | h
    · simp
    · exact ⟨List.mem_cons_of_mem m (ih h).1, List.mem_cons_of_mem m (ih h).2⟩
  | case2 ns hshort => cases h

/-- Joining neighbours changes neither what is covered nor brings in new cuts. -/
theorem partition_join {P : Nat → Prop} {ts : List Token} :
    ∀ {start stop : Nat}, Partition P start stop ts → Partition P start stop (join ts) := by
  induction ts with
  | nil => exact fun h => h
  | cons t ts ih =>
    intro start stop h
    obtain ⟨hstart, hlt, hrest⟩ := h.tiles
    have ht := h.cuts t (List.mem_cons_self ..)
    -- The later tokens are joined first, so the induction is on the list from its end.
    have hjoin : Partition P t.span.stop stop (join ts) :=
      ih ⟨hrest, fun u hu => h.cuts u (List.mem_cons_of_mem t hu)⟩
    rw [join]
    split
    · next hnil =>
      rw [hnil] at hjoin
      refine ⟨⟨hstart, hlt, hjoin.tiles⟩, fun u hu => ?_⟩
      obtain rfl := List.mem_singleton.mp hu
      exact ht
    · next u us hcons =>
      rw [hcons] at hjoin
      obtain ⟨hu, hult, hus⟩ := hjoin.tiles
      have hucuts := hjoin.cuts u (List.mem_cons_self ..)
      split
      · refine ⟨⟨hstart, ?_, hus⟩, fun v hv => ?_⟩
        · exact Nat.lt_trans hlt (hu ▸ hult)
        · rcases List.mem_cons.mp hv with rfl | hv
          · exact ⟨ht.1, hucuts.2⟩
          · exact hjoin.cuts v (List.mem_cons_of_mem u hv)
      · refine ⟨⟨hstart, hlt, hjoin.tiles⟩, fun v hv => ?_⟩
        rcases List.mem_cons.mp hv with rfl | hv
        · exact ht
        · exact hjoin.cuts v hv

/-- If one layer lies over all that any of them does, they cut it at their ends. -/
theorem tiles_bounds {ls : List Layer} (bottom : Layer) (hbottom : bottom ∈ ls)
    (hinside : ∀ n ∈ bounds ls, bottom.span.start ≤ n ∧ n ≤ bottom.span.stop) :
    Tiles bottom.span.start bottom.span.stop (between (bounds ls)) :=
  tiles_between (pairwise_bounds ls) (mem_bounds.mpr ⟨bottom, hbottom, .inl rfl⟩)
    (mem_bounds.mpr ⟨bottom, hbottom, .inr rfl⟩) hinside

theorem tiles_pieces (ambient : List ScopeName) {ls : List Layer} {start stop : Nat}
    (h : Tiles start stop (between (bounds ls))) :
    Tiles start stop (((between (bounds ls)).map fun s =>
      (⟨s, scopesOver ambient ls s⟩ : Token)).map Token.span) := by
  rw [List.map_map]
  show Tiles start stop ((between (bounds ls)).map id)
  rwa [List.map_id]

/-- Layers that lie over the text from `start` to `stop`, one of them over all of it, cut it into
pieces at their ends. -/
theorem partition_tokens {P : Nat → Prop} (ambient : List ScopeName) {ls : List Layer}
    (bottom : Layer) (hbottom : bottom ∈ ls)
    (hinside : ∀ n ∈ bounds ls, bottom.span.start ≤ n ∧ n ≤ bottom.span.stop)
    (hcuts : ∀ n ∈ bounds ls, P n) :
    Partition P bottom.span.start bottom.span.stop (tokens ambient ls) := by
  refine partition_join ⟨tiles_pieces ambient (tiles_bounds bottom hbottom hinside), ?_⟩
  intro t ht
  obtain ⟨s, hs, rfl⟩ := List.mem_map.mp ht
  obtain ⟨hsstart, hsstop⟩ := mem_of_mem_between hs
  exact ⟨hcuts _ hsstart, hcuts _ hsstop⟩

end Layers

/-! ### The tokens of a match -/

/-- The match and its groups begin and end at places of the kind `P` only. -/
def Match.CutAt (P : Nat → Prop) (found : Match) : Prop :=
  (P found.span.start ∧ P found.span.stop) ∧
    ∀ group ∈ found.groups, ∀ s ∈ group, P s.start ∧ P s.stop

instance (P : Nat → Prop) [DecidablePred P] (found : Match) : Decidable (found.CutAt P) :=
  inferInstanceAs (Decidable (_ ∧ _))

theorem Match.CutAt.group {P : Nat → Prop} {found : Match} (h : found.CutAt P) {i : Nat} {s : Span}
    (hs : found.group? i = some s) : P s.start ∧ P s.stop := by
  cases i with
  | zero =>
    obtain rfl : found.span = s := Option.some.inj hs
    exact h.1
  | succ i =>
    have hgroup : some s ∈ found.groups :=
      List.mem_of_getElem? (Option.join_eq_some_iff.mp hs)
    exact h.2 (some s) hgroup s rfl

/-- The layers of a match lie inside it, and begin and end where it does or where a group does. -/
theorem Layers.bounds_layers {found : Match} (hle : found.span.start ≤ found.span.stop)
    {bottom : Option ScopeName} {captures : Captures} {n : Nat}
    (h : n ∈ Layers.bounds (Layers.layers found bottom captures)) :
    (found.span.start ≤ n ∧ n ≤ found.span.stop) ∧
      ∃ i s, found.group? i = some s ∧ (n = s.start ∨ n = s.stop) := by
  obtain ⟨l, hl, hend⟩ := Layers.mem_bounds.mp h
  rcases List.mem_cons.mp hl with rfl | hl
  · dsimp only at hend
    exact ⟨by omega, 0, found.span, rfl, hend⟩
  · obtain ⟨⟨i, name⟩, -, hl⟩ := List.mem_filterMap.mp hl
    obtain ⟨s, hs, hl⟩ := Option.bind_eq_some_iff.mp hl
    dsimp only at hs hl
    split at hl
    · cases hl
    · next hfull =>
      obtain rfl := Option.some.inj hl
      have hlt : (s.clip found.span).start < (s.clip found.span).stop := by
        simpa [Span.isEmpty] using hfull
      simp only [Span.clip] at hlt hend
      -- A group that sticks out of the match is cut off where the match ends.
      have hinside : found.span.start ≤ n ∧ n ≤ found.span.stop := by omega
      rcases hend with hend | hend
      · rcases Nat.le_total s.start found.span.start with hcut | hcut
        · exact ⟨hinside, 0, found.span, rfl, .inl (by omega)⟩
        · exact ⟨hinside, i, s, hs, .inl (by omega)⟩
      · rcases Nat.le_total s.stop found.span.stop with hcut | hcut
        · exact ⟨hinside, i, s, hs, .inr (by omega)⟩
        · exact ⟨hinside, 0, found.span, rfl, .inr (by omega)⟩

/-- The tokens of a match cover it, and cut it at its groups. -/
theorem partition_matchTokens {P : Nat → Prop} {found : Match} (captures : Captures)
    (stack : StateStack) (hle : found.span.start ≤ found.span.stop) (hcuts : found.CutAt P) :
    Partition P found.span.start found.span.stop (matchTokens found captures stack) := by
  refine Layers.partition_tokens _ ⟨found.span, stack.top.scope⟩ (List.mem_cons_self ..) ?_ ?_
  · exact fun n hn => (Layers.bounds_layers hle hn).1
  · intro n hn
    obtain ⟨-, i, s, hs, rfl | rfl⟩ := Layers.bounds_layers hle hn
    · exact (hcuts.group hs).1
    · exact (hcuts.group hs).2

/-! ### The texts of tokens -/

/-- The number of bytes is that of a place between two characters of a text, or at an end. -/
def IsCharBoundary (line : String) (n : Nat) : Prop := (⟨n⟩ : String.Pos.Raw).IsValid line

instance (line : String) : DecidablePred (IsCharBoundary line) :=
  fun n => inferInstanceAs (Decidable ((⟨n⟩ : String.Pos.Raw).IsValid line))

/-- Spans that cover the rest of a text, and begin and end between characters, hold texts that make
up the rest. -/
theorem exists_texts_of_tiles {line : String} {spans : List Span} :
    ∀ pre post : List Char, line.toList = pre ++ post →
      Tiles (Text.byteSize pre) line.utf8ByteSize spans →
      (∀ s ∈ spans, IsCharBoundary line s.stop) →
      ∃ texts : List String, spans.map (Span.text? · line) = texts.map some ∧
        String.join texts = String.ofList post := by
  induction spans with
  | nil =>
    intro pre post hline htiles _
    have hpost : post = [] := by
      apply Text.eq_nil_of_byteSize_eq_zero
      have hsize := Text.byteSize_toList line
      rw [hline, Text.byteSize_append] at hsize
      have hend : Text.byteSize pre = line.utf8ByteSize := htiles
      omega
    subst hpost
    exact ⟨[], rfl, rfl⟩
  | cons s ss ih =>
    intro pre post hline htiles hcuts
    obtain ⟨hstart, hlt, hrest⟩ := htiles
    -- The next cut lies behind this one, and the span holds what is between the two.
    obtain ⟨pre', post', hline', hstop⟩ :=
      Text.exists_append_of_isValid (hcuts s (List.mem_cons_self ..))
    obtain ⟨mid, rfl, rfl⟩ :=
      Text.exists_middle (hline.symm.trans hline') (by omega)
    rw [← hstop] at hrest
    obtain ⟨texts, htexts, hjoin⟩ :=
      ih _ _ hline' hrest fun u hu => hcuts u (List.mem_cons_of_mem s hu)
    have hs : s.text? line = some (String.ofList mid) := by
      have hspan : s = ⟨Text.byteSize pre, Text.byteSize (pre ++ mid)⟩ := by
        rw [← hstart, hstop]
      rw [Span.text?, hline, hspan, Span.chars?_append, Option.map_some]
    refine ⟨String.ofList mid :: texts, ?_, ?_⟩
    · rw [List.map_cons, hs, htexts, List.map_cons]
    · rw [String.join_cons, hjoin, String.ofList_append]

end LineScopes
