/-
Selectors with a comma between them.

A comma ends every token, and what the reader remembers of a selector that it has read to
the end is its alternatives alone.  So it reads what stands behind the comma as if that
stood alone, only later: with other alternatives in front and all places moved.

* `scanFrom_append_comma`, `scanFrom_add` — the tokens of two texts with a comma between
  them, where those of the second are `later`;
* `State.behind` — a state, had other alternatives been read before; `State.step_behind`
  says that a token does to it what it does to the state, and `State.run_behind` that a
  text does;
* `parse_joined` — the selector is that of both texts, or the error is that of the second.
-/
import LineScopes.Proofs.Consumption
import LineScopes.Proofs.SelectorReading
import LineScopes.Proofs.SelectorTokens
import LineScopes.Proofs.SpanTexts

namespace LineScopes.Selector

/-! ### Tokens -/

/-- The token, `k` bytes further on. -/
def Token.later (k : Nat) (t : Token) : Token := ⟨t.kind, k + t.start⟩

/-- Tokens move with the text. -/
theorem scanFrom_add (k : Nat) (cs : List Char) : ∀ skip pos : Nat,
    scanFrom skip (k + pos) cs = (scanFrom skip pos cs).map (Token.later k) := by
  induction cs with
  | nil => exact fun skip pos => rfl
  | cons c cs ih =>
    intro skip pos
    cases skip with
    | succ skip =>
      rw [scanFrom, scanFrom, Nat.add_assoc]
      exact ih skip _
    | zero =>
      rw [scanFrom_zero_cons, scanFrom_zero_cons, List.map_append, Nat.add_assoc, ih, List.map_map]
      rfl

/-- No name goes on with a comma. -/
theorem takeWhile_append_comma (cs rest : List Char) :
    (cs ++ ',' :: rest).takeWhile continuesName = cs.takeWhile continuesName := by
  have hcomma : continuesName ',' = false := by decide
  induction cs with
  | nil => simp [hcomma]
  | cons c cs ih => simp only [List.cons_append, List.takeWhile_cons, ih]

/-- No anchor ends with a comma. -/
theorem head?_append_comma_iff (cs rest : List Char) :
    (cs ++ ',' :: rest).head? = some ':' ↔ cs.head? = some ':' := by
  cases cs with
  | nil => simp
  | cons c cs => rfl

/-- A comma behind it does not change the first token. -/
theorem lead_append_comma (c : Char) (cs rest : List Char) :
    lead c (cs ++ ',' :: rest) = lead c cs := by
  unfold lead
  simp only [takeWhile_append_comma, head?_append_comma_iff]

/-- The first token does not go beyond the text. -/
theorem lead_le_length (c : Char) (cs : List Char) : (lead c cs).2 ≤ cs.length := by
  have hcolon : cs.head? = some ':' → 1 ≤ cs.length := by
    intro h
    rw [List.head?_eq_some_iff] at h
    obtain ⟨ds, rfl⟩ := h
    simp
  unfold lead
  split
  · next h => exact hcolon h.2
  split
  · next h => exact hcolon h.2
  split
  · exact (List.takeWhile_prefix _).length_le
  · exact Nat.zero_le _

/-- A comma is a token of its own, whatever it stands between. -/
theorem scanFrom_append_comma (cs rest : List Char) : ∀ skip pos : Nat, skip ≤ cs.length →
    scanFrom skip pos (cs ++ ',' :: rest) =
      scanFrom skip pos cs ++ ⟨.comma, pos + Text.byteSize cs⟩ ::
        scanFrom 0 (pos + Text.byteSize cs + 1) rest := by
  induction cs with
  | nil =>
    intro skip pos hskip
    obtain rfl := Nat.le_zero.mp hskip
    have hlead : lead ',' rest = (some .comma, 0) := by
      have hname : startsName ',' = false := by decide
      simp [lead, hname, sign?]
    rw [List.nil_append, scanFrom_zero_cons, hlead]
    rfl
  | cons c cs ih =>
    intro skip pos hskip
    have hsize : pos + Text.byteSize (c :: cs) = pos + c.utf8Size + Text.byteSize cs := by
      rw [Text.byteSize_cons, Nat.add_assoc]
    cases skip with
    | succ skip =>
      rw [List.cons_append, scanFrom, scanFrom, hsize]
      exact ih skip _ (Nat.le_of_succ_le_succ hskip)
    | zero =>
      rw [List.cons_append, scanFrom_zero_cons, scanFrom_zero_cons, lead_append_comma,
        ih _ _ (lead_le_length c cs), hsize, List.append_assoc]

theorem scan_joined (s₁ s₂ : String) :
    scan (s₁ ++ "," ++ s₂).toList =
      scan s₁.toList ++ ⟨.comma, s₁.utf8ByteSize⟩ ::
        (scan s₂.toList).map (Token.later (s₁.utf8ByteSize + 1)) := by
  have htext : (s₁ ++ "," ++ s₂).toList = s₁.toList ++ ',' :: s₂.toList := by simp
  rw [scan, htext, scanFrom_append_comma _ _ 0 0 (Nat.zero_le _), Text.byteSize_toList,
    Nat.zero_add, ← Nat.add_zero (s₁.utf8ByteSize + 1), scanFrom_add]
  rfl

/-! ### States -/

/-- The frame, its parenthesis `k` bytes further on. -/
def Frame.later (k : Nat) : Frame → Frame
  | .negation => .negation
  | .group start operands => .group (k + start) operands

/-- The spot, all its parentheses `k` bytes further on. -/
def Spot.later (k : Nat) : Spot → Spot
  | .outside => .outside
  | .owing fault frames => .owing fault (frames.map (Frame.later k))
  | .inside start operands frames => .inside (k + start) operands (frames.map (Frame.later k))

/-- The error, `k` bytes further on. -/
def SyntaxError.later (k : Nat) (e : SyntaxError) : SyntaxError := ⟨e.fault, k + e.position⟩

/-- The state, had the alternatives in front, last first, been read in the `k` bytes before. -/
def State.behind (front : List Alternative) (k : Nat) (s : State) : State :=
  ⟨s.done ++ front, s.anchor, s.operands, s.spot.later k⟩

/-- So for what comes of a token. -/
def Step.behind (front : List Alternative) (k : Nat) : Step → Step
  | .go s => .go (s.behind front k)
  | .stop => .stop
  | .fail e => .fail (e.later k)

/-- So for what is read. -/
def Parsed.behind (front : List Alternative) (k : Nat) (p : Parsed) : Parsed :=
  ⟨⟨front.reverse ++ p.selector.alternatives⟩, p.stoppedAt.map (k + ·)⟩

namespace State

variable (front : List Alternative) (k : Nat)

theorem selector_behind (s : State) :
    (s.behind front k).selector = ⟨front.reverse ++ s.selector.alternatives⟩ := by
  simp [behind, selector, alternatives]

theorem complete_behind (frames : List Frame) : ∀ (s : State) (e : Expression),
    (s.behind front k).complete e (frames.map (Frame.later k)) =
      (s.complete e frames).behind front k := by
  induction frames with
  | nil => exact fun s e => rfl
  | cons frame frames ih =>
    intro s e
    cases frame with
    | negation => exact ih s (.not e)
    | group start es => rfl

theorem operand?_behind (s : State) (frames : List Frame) (t : Token) :
    (s.behind front k).operand? (frames.map (Frame.later k)) (t.later k) =
      (s.operand? frames t).map (State.behind front k) := by
  unfold operand?
  rw [show (t.later k).kind = t.kind from rfl]
  split
  · rfl
  · rfl
  · rw [complete_behind]
    rfl
  · rfl

/-- A token does to the state behind others what it does to the state. -/
theorem step_behind (s : State) (t : Token) :
    (s.behind front k).step (t.later k) = (s.step t).behind front k := by
  obtain ⟨done, anchor, operands, spot⟩ := s
  have hkind : (t.later k).kind = t.kind := rfl
  cases spot with
  | outside =>
    have hoperand := operand?_behind front k ⟨done, anchor, operands, .outside⟩ [] t
    simp only [step, behind, Spot.later, List.map_nil, hkind] at hoperand ⊢
    rw [hoperand]
    cases operand? ⟨done, anchor, operands, .outside⟩ [] t with
    | some s => rfl
    | none =>
      dsimp only [Option.map_none]
      split
      · rfl
      · rw [apply_ite (Step.behind front k)]
        rfl
      · rw [apply_ite (Step.behind front k)]
        rfl
      · rfl
  | owing fault frames =>
    have hoperand := operand?_behind front k ⟨done, anchor, operands, .owing fault frames⟩ frames t
    simp only [step, behind, Spot.later] at hoperand ⊢
    rw [hoperand]
    cases operand? ⟨done, anchor, operands, .owing fault frames⟩ frames t with
    | some s => rfl
    | none => rfl
  | inside start es frames =>
    simp only [step, behind, Spot.later, hkind]
    split
    · rfl
    · rfl
    · have hcomplete := complete_behind front k frames
        ⟨done, anchor, operands, .inside start es frames⟩ (.any es.reverse)
      exact congrArg Step.go hcomplete
    · rfl

/-- What an answer becomes behind other alternatives. -/
def answerBehind : Except SyntaxError Parsed → Except SyntaxError Parsed
  | .ok p => .ok (p.behind front k)
  | .error e => .error (e.later k)

/-- The reader answers behind other alternatives as it does without them. -/
theorem run_behind (size : Nat) (ts : List Token) : ∀ s : State,
    (s.behind front k).run (k + size) (ts.map (Token.later k)) =
      answerBehind front k (s.run size ts) := by
  induction ts with
  | nil =>
    intro s
    rw [List.map_nil, run, run]
    obtain ⟨done, anchor, operands, spot⟩ := s
    cases spot with
    | outside =>
      refine congrArg Except.ok ?_
      rw [selector_behind]
      rfl
    | owing fault frames => rfl
    | inside start es frames => rfl
  | cons t ts ih =>
    intro s
    rw [List.map_cons, run, run, step_behind]
    cases s.step t with
    | go s' => exact ih s'
    | stop =>
      refine congrArg Except.ok ?_
      rw [selector_behind]
      rfl
    | fail e => rfl

/-- If no token is left over, the reader has gone on behind all of them, and is outside. -/
theorem exists_feed?_of_run_all {size : Nat} {ts : List Token} {s : State} {p : Parsed}
    (h : s.run size ts = .ok p) (hall : p.stoppedAt = none) :
    ∃ s', s.feed? ts = some s' ∧ s'.spot = .outside ∧ p.selector = s'.selector := by
  obtain ⟨us, vs, s', rfl, hfeed, hspot, hstop⟩ := exists_feed?_of_run h
  rw [run_append_of_feed? size vs hfeed] at h
  cases vs with
  | nil =>
    refine ⟨s', by rwa [List.append_nil], hspot, ?_⟩
    rw [run, finish, hspot] at h
    rw [← Except.ok.inj h]
  | cons t vs =>
    rw [run, hstop t rfl] at h
    rw [← Except.ok.inj h] at hall
    cases hall

end State

/-! ### Joined texts -/

/-- What stands behind a selector that is read to its end, and a comma, is read as if it stood
alone. -/
theorem parse_append_comma {s₁ : String} {p₁ : Parsed} (h₁ : parse s₁ = .ok p₁)
    (hall : p₁.stoppedAt = none) (s₂ : String) :
    parse (s₁ ++ "," ++ s₂) =
      State.answerBehind p₁.selector.alternatives.reverse (s₁.utf8ByteSize + 1) (parse s₂) := by
  obtain ⟨s, hfeed, hspot, hselector⟩ := State.exists_feed?_of_run_all h₁ hall
  have hsize : (s₁ ++ "," ++ s₂).utf8ByteSize = s₁.utf8ByteSize + 1 + s₂.utf8ByteSize := by
    rw [String.utf8ByteSize_append, String.utf8ByteSize_append]
    rfl
  have hfront : p₁.selector.alternatives.reverse = s.alternatives := by
    rw [hselector, State.selector, List.reverse_reverse]
  rw [parse, scan_joined, hsize, State.run_append_of_feed? _ _ hfeed, State.run,
    State.step_of_goes (.comma hspot rfl), hfront, parse, ← State.run_behind]
  rfl

/-- A selector selects what one of its alternatives does. -/
theorem selects_append (accepts : Matcher) (stack : List ScopeName) (as bs : List Alternative) :
    (Selector.mk (as ++ bs)).selects accepts stack =
      ((Selector.mk as).selects accepts stack || (Selector.mk bs).selects accepts stack) := by
  rw [Bool.eq_iff_iff, Bool.or_eq_true]
  simp only [selects, Alternative.run_searchAny_iff, List.mem_append, or_and_right, exists_or]

/-- If a text is read as a selector with no token left over, and another one is read, then with a
comma between them they are read as the alternatives of both, which select what one of the two
selects.  If the other one is not read, it is wrong behind the comma in the same way, and as far
behind as it is without anything in front. -/
theorem parse_joined {s₁ : String} {p₁ : Parsed} (h₁ : parse s₁ = .ok p₁)
    (hall : p₁.stoppedAt = none) (s₂ : String) :
    (∀ p₂, parse s₂ = .ok p₂ → ∃ p, parse (s₁ ++ "," ++ s₂) = .ok p ∧
      p.selector.alternatives = p₁.selector.alternatives ++ p₂.selector.alternatives ∧
      p.stoppedAt = p₂.stoppedAt.map (s₁.utf8ByteSize + 1 + ·) ∧
      ∀ accepts stack, p.selector.selects accepts stack =
        (p₁.selector.selects accepts stack || p₂.selector.selects accepts stack)) ∧
    ∀ e, parse s₂ = .error e →
      parse (s₁ ++ "," ++ s₂) = .error ⟨e.fault, s₁.utf8ByteSize + 1 + e.position⟩ := by
  have hjoined := parse_append_comma h₁ hall s₂
  constructor
  · intro p₂ h₂
    rw [h₂] at hjoined
    refine ⟨_, hjoined, ?_, rfl, fun accepts stack => ?_⟩
    · rw [Parsed.behind, List.reverse_reverse]
    · rw [Parsed.behind, List.reverse_reverse]
      exact selects_append accepts stack _ _
  · intro e he
    rw [he] at hjoined
    exact hjoined

/-- Behind a group with a comma of its own, and behind an empty alternative. -/
theorem parse_joined_behind_group :
    (∃ p₁ p₂ p, parse "L:a (b, -c)," = .ok p₁ ∧ p₁.stoppedAt = none ∧ parse "-d) e" = .ok p₂ ∧
      parse "L:a (b, -c),,-d) e" = .ok p ∧
      p.selector.alternatives = p₁.selector.alternatives ++ p₂.selector.alternatives ∧
      p.selector.toText = "L:a (b | -c), , -d" ∧ p.stoppedAt = some 15) ∧
    parse "x -(d|" = .error ⟨.separatorWithoutOperand, 6⟩ ∧
      parse "L:a (b, -c),,x -(d|" = .error ⟨.separatorWithoutOperand, 19⟩ := by
  have h₁ : parse "L:a (b, -c)," = .ok ⟨⟨[⟨.left, .all [.name (.ofString "a"),
      .any [.name (.ofString "b"), .not (.name (.ofString "c"))]]⟩, ⟨.free, .all []⟩]⟩, none⟩ := by
    decide +kernel
  have h₂ : parse "-d) e" =
      .ok ⟨⟨[⟨.free, .all [.not (.name (.ofString "d"))]⟩]⟩, some 2⟩ := by decide +kernel
  have hwrong : parse "x -(d|" = .error ⟨.separatorWithoutOperand, 6⟩ := by decide +kernel
  obtain ⟨p, hp, halternatives, hstopped, -⟩ := (parse_joined h₁ rfl "-d) e").1 _ h₂
  refine ⟨⟨_, _, p, h₁, rfl, h₂, hp, halternatives, ?_, hstopped⟩, hwrong,
    (parse_joined h₁ rfl "x -(d|").2 _ hwrong⟩
  rw [toText, halternatives]
  decide +kernel

end LineScopes.Selector
