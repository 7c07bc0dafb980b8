/-
Reading a selector.

The reader holds what it has read so far in its state.  What it has read is the tokens of a
derivation, and behind them, if it is in the middle of an operand, signs that wait in frames
and the operands between them.

* `State.Goes` — all ways in which the reader goes on behind a token;
* `State.feed?` — the state behind some tokens, and `Derivation.feed?_initial` what it is behind
  those of a derivation;
* `State.Reads` — the invariant: what a state has read, kept by every token (`reads_of_goes`);
* `feed?_initial_eq_outside_iff` — where the reader is outside all parentheses and owes no
  operand, it has read the tokens of a derivation, and nothing else;
* `Derivation.IsLongest.parse_eq_ok_iff`, `parse_reads_longest` — a selector is read up to the
  end of the longest beginning that has a derivation.
-/
import LineScopes.Proofs.SelectorGrammar

namespace LineScopes.Selector

/-! ### Steps -/

namespace State

/-- The reader is at a place where an operand can begin, with these frames waiting for it. -/
inductive Awaits (s : State) : List Frame → Prop
  | outside (h : s.spot = .outside) : Awaits s []
  | owing {fault : Fault} {frames : List Frame} (h : s.spot = .owing fault frames) :
      Awaits s frames

/-- The reader goes on behind a token. -/
inductive Goes (s : State) (t : Token) : State → Prop
  | minus {frames : List Frame} (hs : s.Awaits frames) (ht : t.kind = .minus) :
      Goes s t { s with spot := .owing .negationWithoutOperand (.negation :: frames) }
  | opening {frames : List Frame} (hs : s.Awaits frames) (ht : t.kind = .opening) :
      Goes s t { s with spot := .owing .groupWithoutOperand (.group t.start [] :: frames) }
  | name {frames : List Frame} {text : List Char} (hs : s.Awaits frames)
      (ht : t.kind = .name text) :
      Goes s t (s.complete (Operand.name text).tree frames)
  | comma (hs : s.spot = .outside) (ht : t.kind = .comma) :
      Goes s t ⟨s.alternatives, .free, [], .outside⟩
  | anchor {a : Anchor} (hs : s.spot = .outside) (hfree : s.anchor = .free)
      (hnone : s.operands = []) (ht : anchorTokens a = [t.kind]) : Goes s t { s with anchor := a }
  | separator (separator : Separator) {start : Nat} {es : List Expression} {frames : List Frame}
      (hs : s.spot = .inside start es frames) (ht : t.kind = separator.token) :
      Goes s t { s with spot := .owing .separatorWithoutOperand (.group start es :: frames) }
  | closing {start : Nat} {es : List Expression} {frames : List Frame}
      (hs : s.spot = .inside start es frames) (ht : t.kind = .closing) :
      Goes s t (s.complete (.any es.reverse) frames)

variable {s s' : State} {t : Token}

theorem goes_of_operand {frames : List Frame} (hs : s.Awaits frames)
    (h : s.operand? frames t = some s') : s.Goes t s' := by
  unfold operand? at h
  split at h
  · next ht => exact Option.some.inj h ▸ .minus hs ht
  · next ht => exact Option.some.inj h ▸ .opening hs ht
  · next text ht => exact Option.some.inj h ▸ .name hs ht
  · cases h

/-- Those are all ways in which the reader goes on. -/
theorem goes_of_step (h : s.step t = .go s') : s.Goes t s' := by
  unfold step at h
  split at h
  · next hs =>
    split at h
    · next ho => exact Step.go.inj h ▸ goes_of_operand (.outside hs) ho
    · dsimp only at h
      split at h
      · next ht => exact Step.go.inj h ▸ .comma hs ht
      · next ht =>
        split at h
        · next hfresh =>
          exact Step.go.inj h ▸ .anchor hs hfresh.1 hfresh.2 (by rw [ht]; rfl)
        · cases h
      · next ht =>
        split at h
        · next hfresh =>
          exact Step.go.inj h ▸ .anchor hs hfresh.1 hfresh.2 (by rw [ht]; rfl)
        · cases h
      · cases h
  · next hs =>
    split at h
    · next ho => exact Step.go.inj h ▸ goes_of_operand (.owing hs) ho
    · cases h
  · next hs =>
    split at h
    · next ht => exact Step.go.inj h ▸ .separator .bar hs ht
    · next ht => exact Step.go.inj h ▸ .separator .comma hs ht
    · next ht => exact Step.go.inj h ▸ .closing hs ht
    · cases h

theorem step_of_operand {frames : List Frame} (hs : s.Awaits frames)
    (h : s.operand? frames t = some s') : s.step t = .go s' := by
  unfold step
  cases hs with
  | outside hs => simp [hs, h]
  | owing hs => simp [hs, h]

theorem step_of_goes (h : s.Goes t s') : s.step t = .go s' := by
  cases h with
  | minus hs ht => exact step_of_operand hs (by simp [operand?, ht])
  | opening hs ht => exact step_of_operand hs (by simp [operand?, ht])
  | name hs ht => exact step_of_operand hs (by simp [operand?, ht, Operand.tree])
  | comma hs ht => simp [step, hs, operand?, ht]
  | @anchor a hs hfree hnone ht =>
    cases a with
    | free => cases ht
    | left => simp [step, hs, operand?, hfree, hnone, ← (List.cons.inj ht).1]
    | right => simp [step, hs, operand?, hfree, hnone, ← (List.cons.inj ht).1]
  | separator separator hs ht => cases separator <;> simp [step, hs, ht, Separator.token]
  | closing hs ht => simp [step, hs, ht]

/-! ### Feeding tokens -/

/-- The state behind a token, if the reader goes on. -/
def advance? (s : State) (t : Token) : Option State :=
  match s.step t with
  | .go s => some s
  | _ => none

/-- The state behind some tokens, if the reader goes on behind each of them. -/
def feed? (s : State) (ts : List Token) : Option State := ts.foldlM advance? s

theorem advance?_eq_some_iff : s.advance? t = some s' ↔ s.Goes t s' := by
  constructor
  · intro h
    unfold advance? at h
    split at h
    · next hstep => exact Option.some.inj h ▸ goes_of_step hstep
    · cases h
  · intro h
    rw [advance?, step_of_goes h]

@[simp] theorem feed?_nil (s : State) : s.feed? [] = some s := rfl

theorem feed?_cons (s : State) (t : Token) (ts : List Token) :
    s.feed? (t :: ts) = (s.advance? t).bind fun s => s.feed? ts := rfl

theorem feed?_append (s : State) (ts us : List Token) :
    s.feed? (ts ++ us) = (s.feed? ts).bind fun s => s.feed? us := by
  rw [feed?, List.foldlM_append]
  rfl

theorem feed?_cons_of_goes (h : s.Goes t s') (ts : List Token) :
    s.feed? (t :: ts) = s'.feed? ts := by
  rw [feed?_cons, advance?_eq_some_iff.mpr h, Option.bind_some]

/-- The answer of the reader does not depend on how far it has come. -/
theorem run_append_of_feed? (size : Nat) {ts : List Token} (us : List Token) :
    ∀ {s : State}, s.feed? ts = some s' → s.run size (ts ++ us) = s'.run size us := by
  induction ts with
  | nil =>
    intro s h
    rw [Option.some.inj h, List.nil_append]
  | cons t ts ih =>
    intro s h
    rw [feed?_cons] at h
    obtain ⟨s₁, hs₁, hrest⟩ := Option.bind_eq_some_iff.mp h
    rw [List.cons_append, run, step_of_goes (advance?_eq_some_iff.mp hs₁)]
    exact ih hrest

/-! ### Reading what is derived -/

/-- What a complete operand does to the state does not depend on the spot. -/
theorem complete_setSpot (s : State) (spot : Spot) (frames : List Frame) :
    ∀ e : Expression, { s with spot := spot }.complete e frames = s.complete e frames := by
  induction frames with
  | nil => exact fun e => rfl
  | cons frame frames ih =>
    intro e
    cases frame with
    | negation => exact ih _
    | group start es => rfl

mutual

/-- The tokens of an operand lead to the state that its tree completes. -/
theorem feed?_operand : ∀ (o : Operand) {s : State} {frames : List Frame} {ts : List Token},
    s.Awaits frames → ts.map Token.kind = o.tokens → s.feed? ts = some (s.complete o.tree frames)
  | .name text, s, frames, ts, hs, hts => by
    obtain ⟨t, _, rfl, ht, hnil⟩ := List.map_eq_cons_iff.mp hts
    obtain rfl := List.map_eq_nil_iff.mp hnil
    rw [feed?_cons_of_goes (.name hs ht), feed?_nil]
  | .negation o, s, frames, ts, hs, hts => by
    obtain ⟨t, us, rfl, ht, hus⟩ := List.map_eq_cons_iff.mp hts
    rw [feed?_cons_of_goes (.minus hs ht), feed?_operand o (.owing rfl) hus, complete_setSpot]
    rfl
  | .group ms, s, frames, ts, hs, hts => by
    obtain ⟨t, us, rfl, ht, hus⟩ := List.map_eq_cons_iff.mp hts
    rw [feed?_cons_of_goes (.opening hs ht), feed?_members ms rfl hus, complete_setSpot]
    rfl

/-- The tokens up to a closing parenthesis lead to the state that all operands in it complete. -/
theorem feed?_members : ∀ (ms : Members) {s : State} {fault : Fault} {start : Nat}
    {es : List Expression} {frames : List Frame} {ts : List Token},
    s.spot = .owing fault (.group start es :: frames) →
    ts.map Token.kind = ms.tokens ++ [.closing] →
    s.feed? ts = some (s.complete (.any (es.reverse ++ ms.trees)) frames)
  | .last o, s, fault, start, es, frames, ts, hs, hts => by
    obtain ⟨us, _, rfl, hus, hclosing⟩ := List.map_eq_append_iff.mp hts
    obtain ⟨t, _, rfl, ht, hnil⟩ := List.map_eq_cons_iff.mp hclosing
    obtain rfl := List.map_eq_nil_iff.mp hnil
    rw [feed?_append, feed?_operand o (.owing hs) hus, Option.bind_some, complete,
      feed?_cons_of_goes (.closing rfl ht), feed?_nil, complete_setSpot, List.reverse_cons]
    rfl
  | .more o separator ms, s, fault, start, es, frames, ts, hs, hts => by
    rw [Members.tokens, List.append_assoc] at hts
    obtain ⟨us, _, rfl, hus, hrest⟩ := List.map_eq_append_iff.mp hts
    obtain ⟨t, vs, rfl, ht, hvs⟩ := List.map_eq_cons_iff.mp hrest
    rw [feed?_append, feed?_operand o (.owing hs) hus, Option.bind_some, complete,
      feed?_cons_of_goes (.separator separator rfl ht), feed?_members ms rfl hvs,
      complete_setSpot, complete_setSpot, List.reverse_cons, List.append_assoc]
    rfl

end

theorem feed?_operands {os : List Operand} : ∀ {s : State} {ts : List Token},
    s.spot = .outside → ts.map Token.kind = os.flatMap Operand.tokens →
    s.feed? ts =
      some ⟨s.done, s.anchor, (os.map Operand.tree).reverse ++ s.operands, .outside⟩ := by
  induction os with
  | nil =>
    intro s ts hs hts
    obtain rfl := List.map_eq_nil_iff.mp hts
    obtain ⟨done, anchor, operands, spot⟩ := s
    obtain rfl : spot = .outside := hs
    rfl
  | cons o os ih =>
    intro s ts hs hts
    rw [List.flatMap_cons] at hts
    obtain ⟨us, vs, rfl, hus, hvs⟩ := List.map_eq_append_iff.mp hts
    rw [feed?_append, feed?_operand o (.outside hs) hus, Option.bind_some, complete, ih rfl hvs]
    simp

theorem feed?_phrase (p : Phrase) (done : List Alternative) {ts : List Token}
    (hts : ts.map Token.kind = p.tokens) :
    feed? ⟨done, .free, [], .outside⟩ ts =
      some ⟨done, p.anchor, (p.operands.map Operand.tree).reverse, .outside⟩ := by
  obtain ⟨us, vs, rfl, hus, hvs⟩ := List.map_eq_append_iff.mp hts
  have hanchor : feed? ⟨done, .free, [], .outside⟩ us = some ⟨done, p.anchor, [], .outside⟩ := by
    cases us with
    | nil =>
      cases ha : p.anchor with
      | free => rfl
      | left => rw [ha] at hus; cases hus
      | right => rw [ha] at hus; cases hus
    | cons t us =>
      have ht : anchorTokens p.anchor = [t.kind] ∧ us = [] := by
        cases ha : p.anchor <;> simp_all [anchorTokens]
      rw [feed?_cons_of_goes (.anchor rfl rfl rfl ht.1), ht.2, feed?_nil]
  rw [feed?_append, hanchor, Option.bind_some, feed?_operands rfl hvs, List.append_nil]

theorem feed?_phrases {ps : List Phrase} (p : Phrase) :
    ∀ {done : List Alternative} {ts : List Token},
      ts.map Token.kind = ps.flatMap (fun p => p.tokens ++ [.comma]) ++ p.tokens →
      feed? ⟨done, .free, [], .outside⟩ ts =
        some ⟨(ps.map Phrase.tree).reverse ++ done, p.anchor,
          (p.operands.map Operand.tree).reverse, .outside⟩ := by
  induction ps with
  | nil =>
    intro done ts hts
    exact feed?_phrase p done hts
  | cons q ps ih =>
    intro done ts hts
    rw [List.flatMap_cons, List.append_assoc, List.append_assoc] at hts
    obtain ⟨us, _, rfl, hus, hrest⟩ := List.map_eq_append_iff.mp hts
    obtain ⟨t, vs, rfl, ht, hvs⟩ := List.map_eq_cons_iff.mp hrest
    rw [feed?_append, feed?_phrase q done hus, Option.bind_some,
      feed?_cons_of_goes (.comma rfl ht)]
    simp only [alternatives, List.reverse_reverse]
    rw [ih hvs]
    simp [Phrase.tree]

end State

/-! ### What has been read -/

namespace Derivation

/-- The state behind the tokens of a derivation. -/
def state (d : Derivation) : State :=
  ⟨(d.front.map Phrase.tree).reverse, d.last.anchor, (d.last.operands.map Operand.tree).reverse,
    .outside⟩

@[simp] theorem selector_state (d : Derivation) : d.state.selector = d.tree := by
  simp [state, State.selector, State.alternatives, tree, phrases, Phrase.tree]

/-- The tokens of a derivation lead from the initial state to its own. -/
theorem feed?_initial (d : Derivation) {ts : List Token} (hts : ts.map Token.kind = d.tokens) :
    State.initial.feed? ts = some d.state := by
  rw [tokens_eq] at hts
  rw [State.initial, State.feed?_phrases d.last hts, List.append_nil]
  rfl

/-- The derivation with one more operand in its last phrase. -/
def addOperand (d : Derivation) (o : Operand) : Derivation :=
  { d with last := { d.last with operands := d.last.operands ++ [o] } }

theorem tokens_addOperand (d : Derivation) (o : Operand) :
    (d.addOperand o).tokens = d.tokens ++ o.tokens := by
  simp [tokens_eq, addOperand, Phrase.tokens]

theorem state_addOperand (d : Derivation) (o : Operand) :
    (d.addOperand o).state = d.state.complete o.tree [] := by
  simp [state, addOperand, State.complete]

/-- The derivation with one more phrase, which is empty. -/
def addPhrase (d : Derivation) : Derivation := ⟨d.front ++ [d.last], ⟨.free, []⟩⟩

theorem tokens_addPhrase (d : Derivation) : d.addPhrase.tokens = d.tokens ++ [.comma] := by
  simp [tokens_eq, addPhrase, Phrase.tokens, anchorTokens]

theorem state_addPhrase (d : Derivation) :
    d.addPhrase.state = ⟨d.state.alternatives, .free, [], .outside⟩ := by
  simp [state, addPhrase, State.alternatives, Phrase.tree]

/-- The derivation with an anchor in its last phrase. -/
def setAnchor (d : Derivation) (a : Anchor) : Derivation :=
  { d with last := { d.last with anchor := a } }

theorem tokens_setAnchor {d : Derivation} (hanchor : d.last.anchor = .free)
    (hoperands : d.last.operands = []) (a : Anchor) :
    (d.setAnchor a).tokens = d.tokens ++ anchorTokens a := by
  simp [tokens_eq, setAnchor, Phrase.tokens, hanchor, hoperands, anchorTokens]

end Derivation

/-- The frames stand for these tokens: signs that wait, and the operands between them. -/
inductive Opened : List Frame → List Token → Prop
  | nil : Opened [] []
  | minus {frames : List Frame} {ts : List Token} {t : Token} (h : Opened frames ts)
      (ht : t.kind = .minus) : Opened (.negation :: frames) (ts ++ [t])
  | opening {frames : List Frame} {ts : List Token} {t : Token} (h : Opened frames ts)
      (ht : t.kind = .opening) : Opened (.group t.start [] :: frames) (ts ++ [t])
  | separator {start : Nat} {es : List Expression} {frames : List Frame} {ts us : List Token}
      {t : Token} (h : Opened (.group start es :: frames) ts) (o : Operand)
      (hus : us.map Token.kind = o.tokens) (separator : Separator)
      (ht : t.kind = separator.token) :
      Opened (.group start (o.tree :: es) :: frames) (ts ++ us ++ [t])

/-- A place in an alternative, and the tokens of the operand that is not complete there. -/
inductive Pending : Spot → List Token → Prop
  | outside : Pending .outside []
  | owing {fault : Fault} {frames : List Frame} {ts : List Token} (h : Opened frames ts) :
      Pending (.owing fault frames) ts
  | inside {start : Nat} {es : List Expression} {frames : List Frame} {ts us : List Token}
      (h : Opened (.group start es :: frames) ts) (o : Operand)
      (hus : us.map Token.kind = o.tokens) :
      Pending (.inside start (o.tree :: es) frames) (ts ++ us)

/-- The state behind these tokens: those of a derivation, and those of an operand that is not
complete. -/
inductive State.Reads : State → List Token → Prop
  | intro (d : Derivation) {spot : Spot} {ts us : List Token}
      (hts : ts.map Token.kind = d.tokens) (hus : Pending spot us) :
      Reads { d.state with spot := spot } (ts ++ us)

/-- Operands behind an open parenthesis and a list of operands up to a closing one make a group. -/
theorem Opened.exists_group {start : Nat} {es : List Expression} {frames : List Frame}
    {ts : List Token} (h : Opened (.group start es :: frames) ts) :
    ∀ {us : List Token} (ms : Members), us.map Token.kind = ms.tokens →
      ∃ vs ws ns, ts ++ us = vs ++ ws ∧ Opened frames vs ∧
        ws.map Token.kind = .opening :: Members.tokens ns ∧ ns.trees = es.reverse ++ ms.trees := by
  generalize hopen : Frame.group start es :: frames = opened at h
  -- From the last separator back to the parenthesis, each operand is put in front of the members.
  induction h generalizing start es with
  | nil => cases hopen
  | minus => cases hopen
  | @opening frames ts t h ht =>
    intro us ms hus
    cases hopen
    exact ⟨ts, t :: us, ms, by simp, h, by simp [ht, hus], rfl⟩
  | @separator start es frames ts us' t h o hus' separator ht ih =>
    intro us ms hus
    cases hopen
    have hmore : (us' ++ t :: us).map Token.kind = (Members.more o separator ms).tokens := by
      simp [Members.tokens, hus', ht, hus]
    obtain ⟨vs, ws, ns, heq, hvs, hws, htrees⟩ := ih rfl (.more o separator ms) hmore
    refine ⟨vs, ws, ns, by rw [← heq]; simp, hvs, hws, ?_⟩
    rw [htrees]
    simp [Members.trees]

namespace State

variable {s s' : State} {t : Token} {ts : List Token}

/-- The tokens of a derivation are what its state has read. -/
theorem reads_state (d : Derivation) (hts : ts.map Token.kind = d.tokens) : d.state.Reads ts := by
  have h := Reads.intro d hts .outside
  rwa [List.append_nil] at h

theorem opened_of_awaits {d : Derivation} {spot : Spot} {frames : List Frame}
    (hus : Pending spot ts) (hs : Awaits { d.state with spot := spot } frames) :
    Opened frames ts := by
  cases hs with
  | outside h =>
    obtain rfl : spot = .outside := h
    cases hus
    exact .nil
  | @owing fault frames h =>
    obtain rfl : spot = .owing fault frames := h
    cases hus
    assumption

/-- An operand that is complete closes the signs that waited for it alone. -/
theorem reads_complete {d : Derivation} {frames : List Frame} {us : List Token}
    (h : Opened frames us) (hts : ts.map Token.kind = d.tokens) :
    ∀ {vs : List Token} (o : Operand), vs.map Token.kind = o.tokens →
      (d.state.complete o.tree frames).Reads (ts ++ (us ++ vs)) := by
  induction h with
  | nil =>
    intro vs o hvs
    have hall : (ts ++ vs).map Token.kind = (d.addOperand o).tokens := by
      rw [d.tokens_addOperand, List.map_append, hts, hvs]
    rw [← d.state_addOperand, List.nil_append]
    exact reads_state _ hall
  | @minus frames us t h ht ih =>
    intro vs o hvs
    rw [List.append_assoc us]
    exact ih (.negation o) (by simp [Operand.tokens, ht, hvs])
  | opening h ht =>
    intro vs o hvs
    exact .intro d hts (.inside (.opening h ht) o hvs)
  | separator h o' hus separator ht =>
    intro vs o hvs
    exact .intro d hts (.inside (.separator h o' hus separator ht) o hvs)

/-- Behind a token, a state has read that token as well. -/
theorem reads_of_goes (hs : s.Reads ts) (h : s.Goes t s') : s'.Reads (ts ++ [t]) := by
  obtain @⟨d, spot, ts, us, hts, hus⟩ := hs
  cases h with
  | minus hs ht =>
    rw [List.append_assoc]
    exact .intro d hts (.owing (.minus (opened_of_awaits hus hs) ht))
  | opening hs ht =>
    rw [List.append_assoc]
    exact .intro d hts (.owing (.opening (opened_of_awaits hus hs) ht))
  | @name frames text hs ht =>
    rw [List.append_assoc, complete_setSpot]
    exact reads_complete (opened_of_awaits hus hs) hts (.name text) (by simp [Operand.tokens, ht])
  | comma hs ht =>
    obtain rfl : spot = .outside := hs
    cases hus
    have hall : (ts ++ [t]).map Token.kind = d.addPhrase.tokens := by
      rw [d.tokens_addPhrase, List.map_append, hts, List.map_singleton, ht]
    have h := reads_state d.addPhrase hall
    rw [d.state_addPhrase] at h
    rw [List.append_nil]
    exact h
  | @anchor a hs hfree hnone ht =>
    obtain rfl : spot = .outside := hs
    cases hus
    have hoperands : d.last.operands = [] :=
      List.map_eq_nil_iff.mp (List.reverse_eq_nil_iff.mp hnone)
    have hall : (ts ++ [t]).map Token.kind = (d.setAnchor a).tokens := by
      rw [Derivation.tokens_setAnchor hfree hoperands, List.map_append, hts, ht,
        List.map_singleton]
    rw [List.append_nil]
    exact reads_state (d.setAnchor a) hall
  | @separator separator start es frames hs ht =>
    obtain rfl : spot = .inside start es frames := hs
    cases hus with
    | inside h o hvs =>
      rw [List.append_assoc]
      exact .intro d hts (.owing (.separator h o hvs separator ht))
  | @closing start es frames hs ht =>
    obtain rfl : spot = .inside start es frames := hs
    cases hus with
    | @inside _ es _ _ _ h o hvs =>
      obtain ⟨us', ws, ms, heq, hframes, hws, htrees⟩ := h.exists_group (.last o) hvs
      -- The group is an operand, which closes the signs in front of it in turn.
      have hgroup : (ws ++ [t]).map Token.kind = (Operand.group ms).tokens := by
        simp [Operand.tokens, hws, ht]
      have htree : (Operand.group ms).tree = .any (o.tree :: es).reverse := by
        simp [Operand.tree, Members.trees, htrees]
      rw [complete_setSpot, ← htree, heq, List.append_assoc, List.append_assoc]
      exact reads_complete hframes hts (.group ms) hgroup

/-- The reader has read the tokens that it was fed. -/
theorem reads_of_feed? {us : List Token} : ∀ {s : State} {ts : List Token}, s.Reads ts →
    s.feed? us = some s' → s'.Reads (ts ++ us) := by
  induction us with
  | nil =>
    intro s ts hs h
    rw [← Option.some.inj h, List.append_nil]
    exact hs
  | cons t us ih =>
    intro s ts hs h
    rw [feed?_cons] at h
    obtain ⟨s₁, hs₁, hrest⟩ := Option.bind_eq_some_iff.mp h
    have hreads := ih (reads_of_goes hs (advance?_eq_some_iff.mp hs₁)) hrest
    rwa [List.append_assoc, List.singleton_append] at hreads

/-- The reader is outside all parentheses and owes no operand exactly behind the tokens of a
derivation. -/
theorem feed?_initial_eq_outside_iff :
    (initial.feed? ts = some s ∧ s.spot = .outside) ↔
      ∃ d : Derivation, ts.map Token.kind = d.tokens ∧ s = d.state := by
  constructor
  · rintro ⟨h, hspot⟩
    have hinitial : initial.Reads [] := reads_state ⟨[], ⟨.free, []⟩⟩ rfl
    have hreads := reads_of_feed? hinitial h
    rw [List.nil_append] at hreads
    obtain @⟨d, spot, us, vs, hus, hvs⟩ := hreads
    obtain rfl : spot = .outside := hspot
    cases hvs
    exact ⟨d, by rwa [List.append_nil], rfl⟩
  · rintro ⟨d, hts, rfl⟩
    exact ⟨d.feed?_initial hts, rfl⟩

/-! ### The answer -/

/-- From outside, only a minus sign and an opening parenthesis lead to a place that is not. -/
theorem outside_of_goes (hs : s.spot = .outside) (h : s.Goes t s') (hminus : t.kind ≠ .minus)
    (hopening : t.kind ≠ .opening) : s'.spot = .outside := by
  cases h with
  | minus _ ht => exact absurd ht hminus
  | opening _ ht => exact absurd ht hopening
  | name hs' ht =>
    cases hs' with
    | outside _ => rfl
    | owing h => cases hs.symm.trans h
  | comma _ ht => rfl
  | anchor _ _ _ _ => exact hs
  | separator _ h _ => cases hs.symm.trans h
  | closing h _ => cases hs.symm.trans h

/-- The reader stops outside only, and does not fail there. -/
theorem outside_of_step_eq_stop (h : s.step t = .stop) : s.spot = .outside := by
  cases hspot : s.spot with
  | outside => rfl
  | owing fault frames =>
    simp only [step, hspot] at h
    split at h <;> cases h
  | inside start es frames =>
    simp only [step, hspot] at h
    split at h <;> cases h

theorem step_ne_fail (hs : s.spot = .outside) (e : SyntaxError) : s.step t ≠ .fail e := by
  intro h
  simp only [step, hs] at h
  split at h
  · cases h
  · split at h
    · cases h
    · split at h <;> cases h
    · split at h <;> cases h
    · cases h

/-- The reader goes on up to the end of the tokens or to a token that it does not go on behind. -/
theorem exists_feed? (ts : List Token) : ∀ s : State, ∃ us vs s', ts = us ++ vs ∧
    s.feed? us = some s' ∧ ∀ t ∈ vs.head?, s'.advance? t = none := by
  induction ts with
  | nil => exact fun s => ⟨[], [], s, rfl, rfl, by simp⟩
  | cons t ts ih =>
    intro s
    cases hnext : s.advance? t with
    | none => exact ⟨[], t :: ts, s, rfl, rfl, by simp [hnext]⟩
    | some s₁ =>
      obtain ⟨us, vs, s', rfl, hus, hvs⟩ := ih s₁
      refine ⟨t :: us, vs, s', rfl, ?_, hvs⟩
      rw [feed?_cons, hnext, Option.bind_some, hus]

theorem step_ne_go (h : s.advance? t = none) : s.step t ≠ .go s' := by
  intro hstep
  rw [advance?, hstep] at h
  cases h

/-- An answer is given at the end of the tokens or at a token that the reader stops at, and in both
cases outside. -/
theorem exists_feed?_of_run {size : Nat} {p : Parsed} {s : State} {ts : List Token}
    (h : s.run size ts = .ok p) : ∃ us vs s', ts = us ++ vs ∧ s.feed? us = some s' ∧
      s'.spot = .outside ∧ ∀ t ∈ vs.head?, s'.step t = .stop := by
  obtain ⟨us, vs, s', rfl, hus, hvs⟩ := exists_feed? ts s
  rw [run_append_of_feed? size vs hus] at h
  refine ⟨us, vs, s', rfl, hus, ?_⟩
  cases vs with
  | nil =>
    refine ⟨?_, by simp⟩
    cases hspot : s'.spot with
    | outside => rfl
    | owing fault frames => simp [run, finish, hspot] at h
    | inside start es frames => simp [run, finish, hspot] at h
  | cons t vs =>
    rw [run] at h
    cases hstep : s'.step t with
    | go s₁ => cases step_ne_go (hvs t rfl) hstep
    | stop => exact ⟨outside_of_step_eq_stop hstep, by simp [hstep]⟩
    | fail e =>
      rw [hstep] at h
      cases h

end State

section Longest

variable {d : Derivation} {us vs : List Token} (hus : us.map Token.kind = d.tokens)
  (hlongest : d.IsLongest ((us ++ vs).map Token.kind))
include hus hlongest

/-- Behind the longest beginning with a derivation, the reader does not come outside again. -/
theorem eq_nil_of_isLongest (ws : List Token) {xs : List Token} (hvs : vs = ws ++ xs) {s : State}
    (h : d.state.feed? ws = some s) (hspot : s.spot = .outside) : ws = [] := by
  have hfeed : State.initial.feed? (us ++ ws) = some s := by
    rw [State.feed?_append, d.feed?_initial hus, Option.bind_some, h]
  obtain ⟨d', hd', -⟩ := State.feed?_initial_eq_outside_iff.mp ⟨hfeed, hspot⟩
  have hle : d'.tokens.length ≤ d.tokens.length := hlongest.2 d' ⟨xs.map Token.kind, by
    rw [← hd', hvs, ← List.append_assoc, ← List.map_append]⟩
  rw [← hd', ← hus, List.length_map, List.length_map, List.length_append] at hle
  exact List.eq_nil_of_length_eq_zero (by omega)

/-- It answers there if no operand that is a negation or a group follows. -/
theorem run_of_isLongest (hnext : ∀ t ∈ vs.head?, t.kind ≠ .minus ∧ t.kind ≠ .opening)
    (size : Nat) : d.state.run size vs = .ok ⟨d.tree, vs.head?.map Token.start⟩ := by
  cases vs with
  | nil =>
    rw [← d.selector_state]
    rfl
  | cons t vs =>
    obtain ⟨hminus, hopening⟩ := hnext t rfl
    rw [State.run]
    cases hstep : d.state.step t with
    | stop => rw [d.selector_state, List.head?_cons, Option.map_some]
    | fail e => exact absurd hstep (State.step_ne_fail rfl e)
    | go s =>
      -- The reader would be outside behind the token, so that a longer beginning had a derivation.
      have hgoes := State.goes_of_step hstep
      have hfeed : d.state.feed? [t] = some s := by
        rw [State.feed?_cons_of_goes hgoes, State.feed?_nil]
      cases eq_nil_of_isLongest hus hlongest [t] rfl hfeed
        (State.outside_of_goes rfl hgoes hminus hopening)

/-- It fails if one follows. -/
theorem exists_error_of_isLongest {t : Token} (ht : t ∈ vs.head?)
    (hkind : t.kind = .minus ∨ t.kind = .opening) (size : Nat) :
    ∃ e, d.state.run size vs = .error e := by
  cases hrun : d.state.run size vs with
  | error e => exact ⟨e, rfl⟩
  | ok p =>
    obtain ⟨ws, xs, s, hvs, hfeed, hspot, hstop⟩ := State.exists_feed?_of_run hrun
    obtain rfl := eq_nil_of_isLongest hus hlongest ws hvs hfeed hspot
    obtain rfl : d.state = s := Option.some.inj hfeed
    -- The reader stopped at the sign, with which it goes on.
    have hgoes : ∃ s, d.state.Goes t s := by
      rcases hkind with hkind | hkind
      · exact ⟨_, .minus (.outside rfl) hkind⟩
      · exact ⟨_, .opening (.outside rfl) hkind⟩
    obtain ⟨s, hs⟩ := hgoes
    rw [List.nil_append] at hvs
    cases (hstop t (hvs ▸ ht)).symm.trans (State.step_of_goes hs)

end Longest

/-- A derivation stands for conjunctions of operands. -/
theorem Derivation.exists_areOperands_of_mem (d : Derivation) {a : Alternative}
    (ha : a ∈ d.tree.alternatives) :
    ∃ es, a.expression = .all es ∧ Expression.AreOperands es := by
  obtain ⟨p, -, rfl⟩ := List.mem_map.mp ha
  refine ⟨p.operands.map Operand.tree, rfl, Expression.areOperands_iff.mpr fun e he => ?_⟩
  obtain ⟨o, -, rfl⟩ := List.mem_map.mp he
  exact o.isOperand_tree

theorem Derivation.alternatives_tree_ne_nil (d : Derivation) : d.tree.alternatives ≠ [] := by
  simp [tree, phrases]

/-- A text is read if no minus sign or opening parenthesis follows behind the longest beginning
with a derivation, and then as what that derivation stands for. -/
theorem Derivation.IsLongest.parse_eq_ok_iff {source : String} {d : Derivation}
    (hd : d.IsLongest ((scan source.toList).map Token.kind)) {p : Parsed} :
    parse source = .ok p ↔
      (∀ t, (scan source.toList)[d.tokens.length]? = some t →
        t.kind ≠ .minus ∧ t.kind ≠ .opening) ∧
      p = ⟨d.tree, (scan source.toList)[d.tokens.length]?.map Token.start⟩ := by
  obtain ⟨_, hrest⟩ := hd.1
  obtain ⟨us, vs, hscan, hus, -⟩ := List.map_eq_append_iff.mp hrest.symm
  have hnext : (us ++ vs)[d.tokens.length]? = vs.head? := by
    rw [← hus, List.length_map, List.getElem?_append_right (Nat.le_refl _), Nat.sub_self,
      List.head?_eq_getElem?]
  have hparse : parse source = d.state.run source.utf8ByteSize vs := by
    rw [parse, hscan, State.run_append_of_feed? _ vs (d.feed?_initial hus)]
  rw [hscan] at hd ⊢
  rw [hnext, hparse]
  by_cases hstops : ∀ t, vs.head? = some t → t.kind ≠ .minus ∧ t.kind ≠ .opening
  · rw [run_of_isLongest hus hd hstops, Except.ok.injEq, eq_comm]
    exact (and_iff_right hstops).symm
  · obtain ⟨t, ht, hkind⟩ : ∃ t, vs.head? = some t ∧ (t.kind = .minus ∨ t.kind = .opening) := by
      grind
    obtain ⟨e, he⟩ := exists_error_of_isLongest hus hd ht hkind source.utf8ByteSize
    rw [he]
    exact ⟨nofun, fun h => absurd h.1 hstops⟩

/-- The tokens of a text begin with the derivation of a selector, and there is exactly one whose
tokens are the longest beginning that has one.  The text is read if neither a minus sign nor an
opening parenthesis follows behind it, and then as the selector of that derivation, whatever else
follows; the reader tells where it stopped.  What is read has an alternative, and each of them is a
conjunction of operands, in which no conjunction and no empty disjunction stands. -/
theorem parse_reads_longest (source : String) :
    (∃! d : Derivation, d.IsLongest ((scan source.toList).map Token.kind)) ∧
    ∀ d : Derivation, d.IsLongest ((scan source.toList).map Token.kind) →
      ((∃ p, parse source = .ok p) ↔ ∀ t, (scan source.toList)[d.tokens.length]? = some t →
        t.kind ≠ .minus ∧ t.kind ≠ .opening) ∧
      ∀ p, parse source = .ok p →
        p.selector = d.tree ∧
        p.stoppedAt = (scan source.toList)[d.tokens.length]?.map Token.start ∧
        p.selector.alternatives ≠ [] ∧
        ∀ a ∈ p.selector.alternatives, ∃ es, a.expression = .all es ∧
          Expression.AreOperands es := by
  refine ⟨Derivation.existsUnique_isLongest _, fun d hd => ⟨⟨?_, fun hnext => ?_⟩, fun p hp => ?_⟩⟩
  · rintro ⟨p, hp⟩
    exact (hd.parse_eq_ok_iff.mp hp).1
  · exact ⟨_, hd.parse_eq_ok_iff.mpr ⟨hnext, rfl⟩⟩
  · obtain ⟨-, rfl⟩ := hd.parse_eq_ok_iff.mp hp
    exact ⟨rfl, rfl, d.alternatives_tree_ne_nil, fun a ha => d.exists_areOperands_of_mem ha⟩

/-- A bar outside all parentheses ends the selector. -/
theorem parse_reads_up_to_bar :
    ∃ d : Derivation, ∃ p, d.IsLongest ((scan "L:a (b, -c) | d".toList).map Token.kind) ∧
      parse "L:a (b, -c) | d" = .ok p ∧ p.selector = d.tree ∧
      p.selector.toText = "L:a (b | -c)" ∧ p.stoppedAt = some 12 := by
  obtain ⟨d, hd, -⟩ := (parse_reads_longest "L:a (b, -c) | d").1
  have hparse : parse "L:a (b, -c) | d" = .ok ⟨⟨[⟨.left, .all [.name (.ofString "a"),
      .any [.name (.ofString "b"), .not (.name (.ofString "c"))]]⟩]⟩, some 12⟩ := by
    decide +kernel
  obtain ⟨htree, -⟩ := ((parse_reads_longest _).2 d hd).2 _ hparse
  exact ⟨d, _, hd, hparse, htree, by decide +kernel, rfl⟩

end LineScopes.Selector
