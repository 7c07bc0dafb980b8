/-
Where a selector is wrong.

A text that cannot be read is wrong at a token: no selector begins with the tokens up to it,
while some selector begins with those in front of it.  The error tells what stands in front of
that token and, if a parenthesis is open there, where it was opened.

* `Viable` — some selector begins with these tokens;
* `State.exists_feed?_outside` — from every state some tokens lead outside, so that what has
  been read is viable (`viable_of_feed?`);
* `State.error?` — the error of a state whose next token is impossible;
* `unclosed` — the parentheses that are open behind some tokens; `State.openings_of_feed?`
  says that they are those of the state;
* `State.complaint_of_goes` — the error by the last token read and the open parentheses;
* `parse_fails_at_first_impossible` — the error of a text.
-/
import LineScopes.Proofs.SelectorReading
import Mathlib.Data.Option.Basic
import Mathlib.Order.Bounds.Defs

namespace LineScopes.Selector

/-! ### Viable tokens -/

/-- The tokens with an end behind them, which is `none`. -/
def ended (ks : List TokenKind) : List (Option TokenKind) := ks.map some ++ [none]

/-- The end is behind all other tokens. -/
theorem prefix_of_prefix_ended {ks ks' : List TokenKind} (h : ks.map some <+: ended ks') :
    ks <+: ks' := by
  rcases List.prefix_concat_iff.mp h with heq | h
  · have hend : none ∈ ks.map some := heq ▸ by simp
    simp at hend
  · exact (List.prefix_map_iff_of_injective (Option.some_injective _)).mp h

theorem eq_of_ended_prefix_ended {ks ks' : List TokenKind} (h : ended ks <+: ended ks') :
    ks = ks' := by
  rcases List.prefix_concat_iff.mp h with heq | h
  · exact List.map_injective_iff.mpr (Option.some_injective _) (List.append_cancel_right heq)
  · have hend : none ∈ ks'.map some := h.subset (by simp [ended])
    simp at hend

/-- Some selector begins with these tokens, or is all of them if the end is one of them. -/
def Viable (ks : List (Option TokenKind)) : Prop := ∃ d : Derivation, ks <+: ended d.tokens

theorem Viable.of_beginning {ks ks' : List (Option TokenKind)} (h : Viable ks') (hks : ks <+: ks') :
    Viable ks := by
  obtain ⟨d, hd⟩ := h
  exact ⟨d, hks.trans hd⟩

namespace State

variable {s s' : State} {t : Token} {ts : List Token}

/-- Behind a complete operand, closing parentheses lead outside. -/
theorem exists_feed?_complete (frames : List Frame) : ∀ (s : State) (e : Expression),
    ∃ ws s', (s.complete e frames).feed? ws = some s' ∧ s'.spot = .outside := by
  induction frames with
  | nil => exact fun s e => ⟨[], _, rfl, rfl⟩
  | cons frame frames ih =>
    intro s e
    cases frame with
    | negation => exact ih s (.not e)
    | group start es =>
      obtain ⟨ws, s', hfeed, hspot⟩ := ih s (.any (e :: es).reverse)
      refine ⟨⟨.closing, 0⟩ :: ws, s', ?_, hspot⟩
      rw [complete, feed?_cons_of_goes (.closing rfl rfl), complete_setSpot]
      exact hfeed

/-- From every state some tokens lead outside: first an operand where one is owed. -/
theorem exists_feed?_outside (s : State) :
    ∃ ws s', s.feed? ws = some s' ∧ s'.spot = .outside := by
  cases hspot : s.spot with
  | outside => exact ⟨[], s, rfl, hspot⟩
  | owing fault frames =>
    obtain ⟨ws, s', hfeed, hs'⟩ := exists_feed?_complete frames s (Operand.name []).tree
    refine ⟨⟨.name [], 0⟩ :: ws, s', ?_, hs'⟩
    rw [feed?_cons_of_goes (.name (.owing hspot) rfl)]
    exact hfeed
  | inside start es frames =>
    obtain ⟨ws, s', hfeed, hs'⟩ := exists_feed?_complete frames s (.any es.reverse)
    refine ⟨⟨.closing, 0⟩ :: ws, s', ?_, hs'⟩
    rw [feed?_cons_of_goes (.closing hspot rfl)]
    exact hfeed

/-- So some selector begins with what has been read. -/
theorem viable_of_feed? (h : initial.feed? ts = some s) :
    Viable ((ts.map Token.kind).map some) := by
  obtain ⟨ws, s', hfeed, hspot⟩ := s.exists_feed?_outside
  have hall : initial.feed? (ts ++ ws) = some s' := by
    rw [feed?_append, h, Option.bind_some, hfeed]
  obtain ⟨d, hd, -⟩ := feed?_initial_eq_outside_iff.mp ⟨hall, hspot⟩
  refine ⟨d, ?_⟩
  rw [ended, ← hd, List.map_append, List.map_append, List.append_assoc]
  exact List.prefix_append _ _

/-- No selector begins with what the reader does not go on behind. -/
theorem not_viable_of_advance? (h : initial.feed? ts = some s) (ht : s.advance? t = none) :
    ¬ Viable (((ts ++ [t]).map Token.kind).map some) := by
  rintro ⟨d, hd⟩
  obtain ⟨rest, hrest⟩ := prefix_of_prefix_ended hd
  have hkinds : (ts ++ [t] ++ rest.map (Token.mk · 0)).map Token.kind = d.tokens := by
    rw [List.map_append, List.map_map, ← hrest]
    exact congrArg _ (List.map_id rest)
  have hfeed := d.feed?_initial hkinds
  rw [feed?_append, feed?_append, h, Option.bind_some, feed?_cons, ht] at hfeed
  cases hfeed

/-- No selector is all of what has been read when the reader is not outside. -/
theorem not_viable_of_end (h : initial.feed? ts = some s) (hs : s.spot ≠ .outside) :
    ¬ Viable (ended (ts.map Token.kind)) := by
  rintro ⟨d, hd⟩
  have hfeed := d.feed?_initial (eq_of_ended_prefix_ended hd)
  exact hs (congrArg spot (Option.some.inj (h.symm.trans hfeed)))

/-! ### Failing states -/

/-- What is wrong if the token at byte `place`, or the end, is impossible behind the state. -/
def error? (s : State) (place : Nat) : Option SyntaxError :=
  match s.spot with
  | .outside => none
  | .owing fault _ => some ⟨fault, place⟩
  | .inside start _ _ => some ⟨.unclosedGroup, start⟩

theorem error?_of_step_eq_fail {e : SyntaxError} (h : s.step t = .fail e) :
    s.error? t.start = some e := by
  cases hspot : s.spot with
  | outside => cases step_ne_fail hspot e h
  | owing fault frames =>
    simp only [step, hspot] at h
    split at h
    · cases h
    · simpa [error?, hspot] using h
  | inside start es frames =>
    simp only [step, hspot] at h
    split at h
    · cases h
    · cases h
    · cases h
    · simpa [error?, hspot] using h

theorem error?_of_finish_eq_error {size : Nat} {e : SyntaxError} (h : s.finish size = .error e) :
    s.error? size = some e := by
  cases hspot : s.spot with
  | outside => simp [finish, hspot] at h
  | owing fault frames => simpa [finish, error?, hspot] using h
  | inside start es frames => simpa [finish, error?, hspot] using h

/-- The reader fails at a token that it does not go on behind, or at the end. -/
theorem exists_feed?_of_run_eq_error {size : Nat} {e : SyntaxError}
    (h : s.run size ts = .error e) : ∃ us vs s', ts = us ++ vs ∧ s.feed? us = some s' ∧
      s'.error? ((vs.head?.map Token.start).getD size) = some e ∧
      ∀ t ∈ vs.head?, s'.advance? t = none := by
  obtain ⟨us, vs, s', rfl, hus, hvs⟩ := exists_feed? ts s
  rw [run_append_of_feed? size vs hus] at h
  refine ⟨us, vs, s', rfl, hus, ?_, hvs⟩
  cases vs with
  | nil => exact error?_of_finish_eq_error h
  | cons t vs =>
    rw [run] at h
    cases hstep : s'.step t with
    | go s₁ => cases step_ne_go (hvs t rfl) hstep
    | stop =>
      rw [hstep] at h
      cases h
    | fail e' =>
      rw [hstep] at h
      obtain rfl := Except.error.inj h
      exact error?_of_step_eq_fail hstep

end State

/-! ### Open parentheses -/

/-- The open parentheses behind a token, given those in front of it, the innermost first. -/
def openBehind (opens : List Nat) (t : Token) : List Nat :=
  match t.kind with
  | .opening => t.start :: opens
  | .closing => opens.tail
  | _ => opens

/-- Where those parentheses stand that are open behind the tokens, the innermost first. -/
def unclosed (ts : List Token) : List Nat := ts.foldl openBehind []

/-- Where the parentheses among the frames stand. -/
def Frame.openings (frames : List Frame) : List Nat :=
  frames.filterMap fun
    | .negation => none
    | .group start _ => some start

namespace State

variable {s s' : State} {t : Token} {ts : List Token}

/-- Where the parentheses stand that are open in the state, the innermost first. -/
def openings (s : State) : List Nat :=
  match s.spot with
  | .outside => []
  | .owing _ frames => Frame.openings frames
  | .inside start _ frames => start :: Frame.openings frames

theorem openings_of_awaits {frames : List Frame} (h : s.Awaits frames) :
    s.openings = Frame.openings frames := by
  cases h with
  | outside h => rw [openings, h]; rfl
  | owing h => rw [openings, h]

@[simp] theorem openings_complete (frames : List Frame) : ∀ (s : State) (e : Expression),
    (s.complete e frames).openings = Frame.openings frames := by
  induction frames with
  | nil => exact fun s e => rfl
  | cons frame frames ih =>
    intro s e
    cases frame with
    | negation => exact ih s (.not e)
    | group start es => rfl

theorem openings_of_goes (h : s.Goes t s') : s'.openings = openBehind s.openings t := by
  cases h with
  | minus hs ht =>
    rw [openings_of_awaits hs, openBehind, ht]
    rfl
  | opening hs ht =>
    rw [openings_of_awaits hs, openBehind, ht]
    rfl
  | name hs ht => rw [openings_complete, openings_of_awaits hs, openBehind, ht]
  | comma hs ht => simp [openings, hs, openBehind, ht]
  | @anchor a hs hfree hnone ht =>
    show s.openings = openBehind s.openings t
    cases a with
    | free => cases ht
    | left => rw [openBehind, ← (List.cons.inj ht).1]
    | right => rw [openBehind, ← (List.cons.inj ht).1]
  | separator separator hs ht =>
    cases separator <;> simp [openings, hs, openBehind, ht, Separator.token, Frame.openings]
  | closing hs ht =>
    rw [openings_complete, openBehind, ht, openings, hs]
    rfl

theorem openings_of_feed? : ∀ {s : State}, s.feed? ts = some s' →
    s'.openings = ts.foldl openBehind s.openings := by
  induction ts with
  | nil =>
    intro s h
    rw [Option.some.inj h]
    rfl
  | cons t ts ih =>
    intro s h
    rw [feed?_cons] at h
    obtain ⟨s₁, hs₁, hrest⟩ := Option.bind_eq_some_iff.mp h
    rw [ih hrest, openings_of_goes (advance?_eq_some_iff.mp hs₁)]
    rfl

end State

/-! ### The error of a text -/

/-- What is wrong, and where, if what stands at byte `place` is impossible behind a token, given
the parentheses that are open there. -/
def complaint (t : TokenKind) (place : Nat) (opens : List Nat) : Option (String × Nat) :=
  match t with
  | .minus => some ("expected operand after negation", place)
  | .opening => some ("expected operand in group", place)
  | .bar | .comma => some ("expected operand after alternative separator", place)
  | .name _ | .closing => opens.head?.map ("unclosed group", ·)
  | .left | .right => none

namespace State

variable {s s' : State} {t : Token} {ts : List Token}

/-- Behind a complete operand, only an open parenthesis can be wrong. -/
theorem error?_complete {place : Nat} {e : SyntaxError} (frames : List Frame) :
    ∀ {s : State} {operand : Expression}, (s.complete operand frames).error? place = some e →
      e.fault = .unclosedGroup ∧ (Frame.openings frames).head? = some e.position := by
  induction frames with
  | nil => exact nofun
  | cons frame frames ih =>
    intro s operand h
    cases frame with
    | negation => exact ih h
    | group start es =>
      obtain rfl := Option.some.inj h
      exact ⟨rfl, rfl⟩

/-- What is wrong behind a token, and where. -/
theorem complaint_of_goes {place : Nat} {e : SyntaxError} (h : s.Goes t s')
    (he : s'.error? place = some e) :
    complaint t.kind place s'.openings = some (e.fault.text, e.position) := by
  cases h with
  | minus hs ht =>
    obtain rfl := Option.some.inj he
    rw [ht]
    rfl
  | opening hs ht =>
    obtain rfl := Option.some.inj he
    rw [ht]
    rfl
  | @name frames text hs ht =>
    obtain ⟨hfault, hopen⟩ := error?_complete frames he
    rw [ht, complaint, openings_complete, hopen, hfault]
    rfl
  | comma hs ht => cases he
  | anchor hs hfree hnone ht =>
    rw [error?, hs] at he
    cases he
  | separator separator hs ht =>
    obtain rfl := Option.some.inj he
    cases separator <;> (rw [ht]; rfl)
  | @closing start es frames hs ht =>
    obtain ⟨hfault, hopen⟩ := error?_complete frames he
    rw [ht, complaint, openings_complete, hopen, hfault]
    rfl

end State

/-- The byte at which the token with the number stands, or the end of the text. -/
def offset (source : String) (k : Nat) : Nat :=
  ((scan source.toList)[k]?.map Token.start).getD source.utf8ByteSize

/-- The tokens up to number `n`, with the end behind all of them. -/
def upTo (source : String) (n : Nat) : List (Option TokenKind) :=
  (ended ((scan source.toList).map Token.kind)).take (n + 1)

/-- Where the reader does not go on, and is not outside, stands the first impossible token. -/
theorem isLeast_not_viable {source : String} {us vs : List Token} {s : State}
    (hscan : scan source.toList = us ++ vs) (hfeed : State.initial.feed? us = some s)
    (hspot : s.spot ≠ .outside) (hnext : ∀ t ∈ vs.head?, s.advance? t = none) :
    IsLeast {n | ¬ Viable (upTo source n)} us.length := by
  have hall : ended ((scan source.toList).map Token.kind) =
      (us.map Token.kind).map some ++ ended (vs.map Token.kind) := by
    rw [hscan, ended, ended, List.map_append, List.map_append, List.append_assoc]
  have hlength : us.length = ((us.map Token.kind).map some).length := by simp
  constructor
  · show ¬ Viable (upTo source us.length)
    rw [upTo, hall, hlength, List.take_length_add_append]
    cases vs with
    | nil => exact State.not_viable_of_end hfeed hspot
    | cons v vs =>
      have himpossible := State.not_viable_of_advance? hfeed (hnext v rfl)
      rwa [List.map_append, List.map_append] at himpossible
  · intro n hn
    by_contra hlt
    -- All tokens in front have been read.
    refine hn ((State.viable_of_feed? hfeed).of_beginning ?_)
    rw [upTo, hall, List.take_append_of_le_length (by omega)]
    exact List.take_prefix _ _

/-- A text that is not read is wrong at the first token with which no selector goes on, and that is
not its first token.  What is wrong, and where, is told by the token in front of it and the
parentheses that are open there. -/
theorem parse_fails_at_first_impossible {source : String} {e : SyntaxError}
    (h : parse source = .error e) :
    ∃ k t, IsLeast {n | ¬ Viable (upTo source n)} k ∧ 1 ≤ k ∧
      (scan source.toList)[k - 1]? = some t ∧
      complaint t.kind (offset source k) (unclosed ((scan source.toList).take k)) =
        some (e.fault.text, e.position) := by
  obtain ⟨us, vs, s, hscan, hfeed, he, hnext⟩ := State.exists_feed?_of_run_eq_error h
  have hspot : s.spot ≠ .outside := by
    intro hspot
    rw [State.error?, hspot] at he
    cases he
  have hleast := isLeast_not_viable hscan hfeed hspot hnext
  -- The reader begins outside, so that it has read a token.
  rcases us.eq_nil_or_concat' with rfl | ⟨us, t, rfl⟩
  · cases hspot (congrArg State.spot (Option.some.inj hfeed)).symm
  have htake : (scan source.toList).take (us ++ [t]).length = us ++ [t] := by
    rw [hscan, List.take_left]
  have hopens : s.openings = unclosed (us ++ [t]) := State.openings_of_feed? hfeed
  have hplace : offset source (us ++ [t]).length =
      (vs.head?.map Token.start).getD source.utf8ByteSize := by
    rw [offset, hscan, List.getElem?_append_right (Nat.le_refl _), Nat.sub_self,
      List.head?_eq_getElem?]
  rw [State.feed?_append] at hfeed
  obtain ⟨s₁, -, hlast⟩ := Option.bind_eq_some_iff.mp hfeed
  have hgoes : s₁.Goes t s := by
    obtain ⟨s₂, hs₂, hnil⟩ := Option.bind_eq_some_iff.mp hlast
    obtain rfl := Option.some.inj hnil
    exact State.advance?_eq_some_iff.mp hs₂
  refine ⟨(us ++ [t]).length, t, hleast, by simp, by simp [hscan], ?_⟩
  rw [htake, ← hopens, hplace]
  exact State.complaint_of_goes hgoes he

/-- Behind the inner parentheses, which are closed, it is the outer ones that are not. -/
theorem parse_fails_at_name_behind_group :
    let source := "a, -(b | (c, -d) x"
    parse source = .error ⟨.unclosedGroup, 4⟩ ∧
      ∃ k t, IsLeast {n | ¬ Viable (upTo source n)} k ∧
        (scan source.toList)[k - 1]? = some t ∧
        complaint t.kind (offset source k) (unclosed ((scan source.toList).take k)) =
          some ("unclosed group", 4) := by
  intro source
  have hparse : parse source = .error ⟨.unclosedGroup, 4⟩ := by decide +kernel
  obtain ⟨k, t, hleast, -, ht, hcomplaint⟩ := parse_fails_at_first_impossible hparse
  exact ⟨hparse, k, t, hleast, ht, hcomplaint.trans rfl⟩

end LineScopes.Selector
