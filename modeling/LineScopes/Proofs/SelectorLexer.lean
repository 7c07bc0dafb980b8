/-
What a lexer answers.

A lexer is asked for one token after the other.  Each time it looks for the first place at
which something matches: an anchor, or else a name, as long as it can be, or else a sign.
Nothing is lost on the way but characters at which nothing matches.

* `lexeme?` — what matches at the beginning of a text; `lexeme?_cases` is about what that is,
  and about where nothing does;
* `TokenKind.Fits` — what can be behind a token: `fits_of_lexeme?` for what matches, and
  `TokenKind.Fits.lexeme?_chars`, by which nothing else does;
* `Lexer.next` — what a lexer answers, and where it is then;
* `Lexes` — the division of a text into what a lexer finds and what it passes over, with
  `lexes_scanFrom` for the tokens of the text;
* `Lexes.reply_of_getElem?` and `Lexes.reply_of_length_le` — the answers, one after the other.
-/
import LineScopes.Proofs.SelectorTokens

namespace LineScopes.Selector

/-! ### Lexemes -/

/-- The anchor at the beginning of a text. -/
def anchor? : List Char → Option (List Char)
  | c :: d :: _ => if (c = 'L' ∨ c = 'R') ∧ d = ':' then some [c, d] else none
  | _ => none

/-- The name at the beginning of a text, as long as it can be. -/
def name? : List Char → Option (List Char)
  | c :: cs => if startsName c then some (c :: cs.takeWhile continuesName) else none
  | [] => none

/-- The characters that are signs. -/
def signs : List Char := [',', '|', '-', '(', ')']

/-- The sign at the beginning of a text. -/
def punctuation? : List Char → Option (List Char)
  | c :: _ => if c ∈ signs then some [c] else none
  | [] => none

theorem startsName_of_mem_signs {c : Char} (h : c ∈ signs) : startsName c = false := by
  simp only [signs, List.mem_cons, List.not_mem_nil, or_false] at h
  rcases h with rfl | rfl | rfl | rfl | rfl <;> decide

/-- What matches at the beginning of a text: an anchor, or else a name, or else a sign. -/
def lexeme? (cs : List Char) : Option (List Char) :=
  (anchor? cs).or ((name? cs).or (punctuation? cs))

/-- What a token with the text says. -/
def TokenKind.ofText : List Char → TokenKind
  | ['L', ':'] => .left
  | ['R', ':'] => .right
  | [','] => .comma
  | ['|'] => .bar
  | ['-'] => .minus
  | ['('] => .opening
  | [')'] => .closing
  | text => .name text

/-- The text of a token. -/
def TokenKind.chars : TokenKind → List Char
  | .left => ['L', ':']
  | .right => ['R', ':']
  | .name text => text
  | .comma => [',']
  | .bar => ['|']
  | .minus => ['-']
  | .opening => ['(']
  | .closing => [')']

@[simp] theorem TokenKind.chars_ofText (text : List Char) : (ofText text).chars = text := by
  unfold ofText
  split <;> rfl

@[simp] theorem TokenKind.byteSize_chars (kind : TokenKind) :
    Text.byteSize kind.chars = kind.byteSize := by
  cases kind <;> rfl

theorem span_stop_ofText (text : List Char) (pos : Nat) :
    (Token.mk (.ofText text) pos).span.stop = pos + Text.byteSize text := by
  show pos + TokenKind.byteSize _ = _
  rw [← TokenKind.byteSize_chars, TokenKind.chars_ofText]

/-- What a token says, if the characters behind it are these: a name is as long as it can be, and no
anchor. -/
def TokenKind.Fits (rest : List Char) : TokenKind → Prop
  | .name text => (∃ c tail, text = c :: tail ∧ startsName c ∧ (∀ d ∈ tail, continuesName d) ∧
      (c = 'L' ∨ c = 'R' → (tail ++ rest).head? ≠ some ':')) ∧
      ∀ d ∈ rest.head?, continuesName d = false
  | _ => True

theorem anchor?_cons (c : Char) (cs : List Char) : anchor? (c :: cs) =
    if (c = 'L' ∨ c = 'R') ∧ cs.head? = some ':' then some [c, ':'] else none := by
  cases cs with
  | nil => simp [anchor?]
  | cons d cs =>
    by_cases hd : d = ':'
    · simp [anchor?, hd]
    · simp [anchor?, hd]

/-- A name is not the text of any other token. -/
theorem ofText_name {c : Char} {tail : List Char} (hc : startsName c)
    (htail : ∀ d ∈ tail, continuesName d) : TokenKind.ofText (c :: tail) = .name (c :: tail) := by
  have hchars := TokenKind.chars_ofText (c :: tail)
  cases hkind : TokenKind.ofText (c :: tail) with
  | name text =>
    rw [hkind] at hchars
    exact congrArg TokenKind.name hchars
  | left | right =>
    -- No name goes on with a colon.
    rw [hkind] at hchars
    obtain ⟨rfl, rfl⟩ := List.cons.inj hchars
    exact absurd (htail ':' (by simp)) (by decide)
  | comma | bar | minus | opening | closing =>
    -- No name begins with a sign.
    rw [hkind] at hchars
    obtain ⟨rfl, -⟩ := List.cons.inj hchars
    exact absurd hc (by decide)

/-- The characters that tokens are made of, the colon of an anchor aside. -/
def isTokenChar (c : Char) : Bool := Unicode.isWord c || ['.', ',', '|', '-', '(', ')'].contains c

theorem isTokenChar_of_continuesName {c : Char} (hc : continuesName c) : isTokenChar c = true := by
  simp only [continuesName, Bool.or_eq_true, beq_iff_eq] at hc
  rcases hc with (hc | rfl) | rfl
  · simp [isTokenChar, hc]
  · rfl
  · rfl

theorem isTokenChar_iff {c : Char} : isTokenChar c = true ↔ startsName c = true ∨ c ∈ signs := by
  have hchars : isTokenChar c = (Unicode.isWord c || ('.' :: signs).contains c) := rfl
  simp only [hchars, startsName, Bool.or_eq_true, List.contains_iff_mem, List.mem_cons, beq_iff_eq,
    or_assoc]

/-- Where a text begins with a character that tokens are made of, a token matches; and nothing
matches where it begins with another one. -/
theorem lexeme?_cases (c : Char) (cs : List Char) :
    (∃ tail rest, cs = tail ++ rest ∧ (TokenKind.ofText (c :: tail)).Fits rest ∧
      lexeme? (c :: cs) = some (c :: tail) ∧
      lead c cs = (some (.ofText (c :: tail)), tail.length)) ∨
    (isTokenChar c = false ∧ lexeme? (c :: cs) = none ∧ lead c cs = (none, 0)) := by
  rw [lexeme?, anchor?_cons, name?, punctuation?]
  unfold lead
  -- What matches is looked for in the order in which the first token is settled.
  by_cases hanchor : (c = 'L' ∨ c = 'R') ∧ cs.head? = some ':'
  · left
    obtain ⟨hc, hcolon⟩ := hanchor
    obtain ⟨rest, rfl⟩ := List.head?_eq_some_iff.mp hcolon
    refine ⟨[':'], rest, rfl, ?_, by simp [hc], ?_⟩
    · rcases hc with rfl | rfl <;> exact trivial
    · rcases hc with rfl | rfl <;> rfl
  have hleft : ¬ (c = 'L' ∧ cs.head? = some ':') := fun h => hanchor ⟨.inl h.1, h.2⟩
  have hright : ¬ (c = 'R' ∧ cs.head? = some ':') := fun h => hanchor ⟨.inr h.1, h.2⟩
  rw [if_neg hanchor, if_neg hleft, if_neg hright, Option.none_or]
  by_cases hc : startsName c
  · left
    rw [if_pos hc, if_pos hc, Option.some_or]
    have htail : ∀ d ∈ cs.takeWhile continuesName, continuesName d :=
      fun d hd => List.mem_takeWhile_imp hd
    have hcs : cs = cs.takeWhile continuesName ++ cs.dropWhile continuesName :=
      List.takeWhile_append_dropWhile.symm
    refine ⟨_, _, hcs, ?_, rfl, ?_⟩
    · rw [ofText_name hc htail]
      refine ⟨⟨c, _, rfl, hc, htail, ?_⟩, ?_⟩
      · intro hLR hcolon
        rw [← hcs] at hcolon
        exact hanchor ⟨hLR, hcolon⟩
      · intro d hd
        have hhead := List.head?_dropWhile_not continuesName cs
        rw [Option.mem_def.mp hd] at hhead
        exact hhead
    · rw [ofText_name hc htail]
  rw [if_neg hc, if_neg hc, Option.none_or]
  by_cases hsign : c ∈ signs
  · left
    have hcases := hsign
    simp only [signs, List.mem_cons, List.not_mem_nil, or_false] at hcases
    refine ⟨[], cs, rfl, ?_, if_pos hsign, ?_⟩
    · rcases hcases with rfl | rfl | rfl | rfl | rfl <;> exact trivial
    · rcases hcases with rfl | rfl | rfl | rfl | rfl <;> rfl
  · right
    refine ⟨?_, if_neg hsign, ?_⟩
    · rw [Bool.eq_false_iff, Ne, isTokenChar_iff]
      exact not_or.mpr ⟨hc, hsign⟩
    · have hnone : sign? c = none := by
        simp only [signs, List.mem_cons, List.not_mem_nil, or_false, not_or] at hsign
        simp [sign?, hsign]
      rw [hnone]

/-- Of the beginnings of a text, only one matches. -/
theorem fits_of_lexeme? {c : Char} {tail rest : List Char}
    (h : lexeme? (c :: (tail ++ rest)) = some (c :: tail)) :
    (TokenKind.ofText (c :: tail)).Fits rest := by
  rcases lexeme?_cases c (tail ++ rest) with ⟨tail', rest', hcs, hfits, htext, -⟩ | ⟨-, hnone, -⟩
  · obtain rfl := (List.cons.inj (Option.some.inj (h.symm.trans htext))).2
    obtain rfl := List.append_cancel_left hcs
    exact hfits
  · rw [hnone] at h
    cases h

/-- A token has a text, and that begins with a character that tokens are made of. -/
theorem TokenKind.Fits.exists_cons {kind : TokenKind} {rest : List Char} (h : kind.Fits rest) :
    ∃ c tail, kind.chars = c :: tail ∧ isTokenChar c = true := by
  cases kind with
  | name text =>
    obtain ⟨⟨c, tail, htext, hc, -, -⟩, -⟩ := h
    exact ⟨c, tail, htext, isTokenChar_iff.mpr (.inl hc)⟩
  | left | right | comma | bar | minus | opening | closing => exact ⟨_, _, rfl, by decide⟩

/-- A token that fits is the one that matches, and is told from its text. -/
theorem TokenKind.Fits.lexeme?_chars {kind : TokenKind} {rest : List Char} (h : kind.Fits rest) :
    lexeme? (kind.chars ++ rest) = some kind.chars ∧ ofText kind.chars = kind := by
  cases kind with
  | name text =>
    obtain ⟨⟨c, tail, rfl, hc, htail, hanchor⟩, hrest⟩ := h
    have hnone : ¬ ((c = 'L' ∨ c = 'R') ∧ (tail ++ rest).head? = some ':') :=
      fun h => hanchor h.1 h.2
    have htake : (tail ++ rest).takeWhile continuesName = tail := by
      rw [List.takeWhile_append_of_pos htail]
      cases rest with
      | nil => simp
      | cons d rest => simp [hrest d rfl]
    refine ⟨?_, ofText_name hc htail⟩
    show lexeme? (c :: (tail ++ rest)) = some (c :: tail)
    rw [lexeme?, anchor?_cons, if_neg hnone, name?, if_pos hc, htake]
    rfl
  | left | right => exact ⟨rfl, rfl⟩
  | comma | bar | minus | opening | closing =>
    refine ⟨?_, rfl⟩
    show lexeme? (_ :: rest) = _
    rw [lexeme?, anchor?_cons]
    rfl

/-! ### The lexer -/

/-- A lexer: the byte that it has come to, and the characters from there on. -/
structure Lexer where
  pos : Nat
  rest : List Char

/-- What a lexer answers: what the next token says and where it begins, or that there is none and
where the text ends. -/
structure Reply where
  kind : Option TokenKind
  start : Nat

namespace Lexer

/-- A lexer in front of a text. -/
def ofString (source : String) : Lexer := ⟨0, source.toList⟩

/-- Goes on to the first place at which something matches, and behind it. -/
def nextFrom (pos : Nat) : List Char → Reply × Lexer
  | [] => (⟨none, pos⟩, ⟨pos, []⟩)
  | c :: cs =>
    match lexeme? (c :: cs) with
    | some text =>
      (⟨some (.ofText text), pos⟩, ⟨pos + Text.byteSize text, (c :: cs).drop text.length⟩)
    | none => nextFrom (pos + c.utf8Size) cs

/-- The answer of a lexer that is asked for the next token, and the lexer from then on. -/
def next (l : Lexer) : Reply × Lexer := nextFrom l.pos l.rest

/-- The lexer after it was asked so many times. -/
def after : Nat → Lexer → Lexer
  | 0, l => l
  | k + 1, l => after k l.next.2

/-- Its answer to the question after those. -/
def reply (l : Lexer) (k : Nat) : Reply := (l.after k).next.1

@[simp] theorem after_succ (l : Lexer) (k : Nat) : l.after (k + 1) = l.next.2.after k := rfl

@[simp] theorem reply_succ (l : Lexer) (k : Nat) : l.reply (k + 1) = l.next.2.reply k := rfl

end Lexer

/-! ### What a lexer finds -/

/-- The text from byte `pos` on is divided into these tokens and characters at which nothing
matches. -/
inductive Lexes : Nat → List Char → List Token → Prop
  | nil {pos : Nat} : Lexes pos [] []
  | skip {pos : Nat} {c : Char} {cs : List Char} {ts : List Token} (hc : lexeme? (c :: cs) = none)
      (h : Lexes (pos + c.utf8Size) cs ts) : Lexes pos (c :: cs) ts
  | token {pos : Nat} {c : Char} {tail rest : List Char} {ts : List Token}
      (htext : lexeme? (c :: (tail ++ rest)) = some (c :: tail))
      (h : Lexes (pos + Text.byteSize (c :: tail)) rest ts) :
      Lexes pos (c :: (tail ++ rest)) (⟨.ofText (c :: tail), pos⟩ :: ts)

/-- Characters that are passed over only move what is found behind them. -/
theorem scanFrom_eq_drop (skip pos : Nat) (cs : List Char) :
    scanFrom skip pos cs = scanFrom 0 (pos + Text.byteSize (cs.take skip)) (cs.drop skip) := by
  induction cs generalizing skip pos with
  | nil => simp [scanFrom]
  | cons c cs ih =>
    cases skip with
    | zero => rfl
    | succ skip =>
      rw [scanFrom, ih, List.take_succ_cons, List.drop_succ_cons, Text.byteSize_cons, Nat.add_assoc]

theorem lexes_scanFrom (pos : Nat) (cs : List Char) : Lexes pos cs (scanFrom 0 pos cs) := by
  -- By the number of characters, since a token takes several of them at once.
  induction hn : cs.length using Nat.strong_induction_on generalizing pos cs with
  | _ n ih =>
    cases cs with
    | nil => exact .nil
    | cons c cs =>
      rw [scanFrom_zero_cons]
      rcases lexeme?_cases c cs with ⟨tail, rest, rfl, -, htext, hlead⟩ | ⟨-, hnone, hlead⟩
      · rw [hlead, scanFrom_eq_drop, List.take_left, List.drop_left, Nat.add_assoc]
        have hlt : rest.length < n := by
          rw [← hn, List.length_cons, List.length_append]
          omega
        exact .token htext (ih rest.length hlt _ rest rfl)
      · rw [hlead]
        have hlt : cs.length < n := by
          rw [← hn, List.length_cons]
          omega
        exact .skip hnone (ih cs.length hlt _ cs rfl)

namespace Lexes

variable {pos : Nat} {cs : List Char} {ts : List Token}

/-! ### One by one -/

/-- A lexer that is asked where no token follows goes to the end. -/
theorem next_of_nil (h : Lexes pos cs []) :
    (Lexer.mk pos cs).next = (⟨none, pos + Text.byteSize cs⟩, ⟨pos + Text.byteSize cs, []⟩) := by
  generalize hts : ([] : List Token) = ts at h
  induction h with
  | nil => rfl
  | skip hc h ih =>
    rw [Lexer.next] at ih ⊢
    rw [Lexer.nextFrom, hc, ih hts, Text.byteSize_cons, Nat.add_assoc]
  | token htext h => cases hts

/-- A lexer that is asked where a token follows finds it and goes behind it. -/
theorem next_of_cons {t : Token} (h : Lexes pos cs (t :: ts)) :
    ∃ rest, (Lexer.mk pos cs).next = (⟨some t.kind, t.start⟩, ⟨t.span.stop, rest⟩) ∧
      Lexes t.span.stop rest ts ∧ t.span.stop + Text.byteSize rest = pos + Text.byteSize cs := by
  generalize hts : t :: ts = us at h
  induction h with
  | nil => cases hts
  | skip hc h ih =>
    obtain ⟨rest, hnext, hrest, hsize⟩ := ih hts
    refine ⟨rest, ?_, hrest, ?_⟩
    · rw [Lexer.next] at hnext ⊢
      rw [Lexer.nextFrom, hc, hnext]
    · rw [hsize, Text.byteSize_cons, Nat.add_assoc]
  | @token pos c tail rest us htext h =>
    obtain ⟨rfl, rfl⟩ := List.cons.inj hts
    have hstop := span_stop_ofText (c :: tail) pos
    have hdrop : (c :: (tail ++ rest)).drop (c :: tail).length = rest := List.drop_left
    refine ⟨rest, ?_, hstop ▸ h, ?_⟩
    · rw [Lexer.next, Lexer.nextFrom, htext, hstop]
      dsimp only
      rw [hdrop]
    · rw [hstop, ← List.cons_append, Text.byteSize_append, Nat.add_assoc]

/-- A lexer that is asked again and again finds one token after the other, and goes behind each. -/
theorem reply_of_getElem? {k : Nat} {t : Token} (h : Lexes pos cs ts) (ht : ts[k]? = some t) :
    (Lexer.mk pos cs).reply k = ⟨some t.kind, t.start⟩ ∧
      ((Lexer.mk pos cs).after (k + 1)).pos = t.span.stop := by
  -- The first question leads to a division of what is left, whose tokens are the other ones.
  induction k generalizing pos cs ts with
  | zero =>
    obtain ⟨us, rfl⟩ := List.head?_eq_some_iff.mp (List.head?_eq_getElem?.trans ht)
    obtain ⟨rest, hnext, -, -⟩ := h.next_of_cons
    rw [Lexer.after_succ]
    exact ⟨congrArg Prod.fst hnext, congrArg (fun r => r.2.pos) hnext⟩
  | succ k ih =>
    cases ts with
    | nil => cases ht
    | cons u us =>
      obtain ⟨rest, hnext, hrest, -⟩ := h.next_of_cons
      rw [Lexer.reply_succ, Lexer.after_succ, hnext]
      exact ih hrest ht

/-- A lexer that has found all tokens answers from then on that there are no more. -/
theorem reply_of_length_le {k : Nat} (h : Lexes pos cs ts) (hk : ts.length ≤ k) :
    (Lexer.mk pos cs).reply k = ⟨none, pos + Text.byteSize cs⟩ := by
  induction k generalizing pos cs ts with
  | zero =>
    obtain rfl := List.eq_nil_of_length_eq_zero (Nat.le_zero.mp hk)
    exact congrArg Prod.fst h.next_of_nil
  | succ k ih =>
    rw [Lexer.reply_succ]
    cases ts with
    | nil =>
      rw [h.next_of_nil]
      exact ih .nil (Nat.zero_le k)
    | cons u us =>
      obtain ⟨rest, hnext, hrest, hsize⟩ := h.next_of_cons
      rw [hnext, ← hsize]
      exact ih hrest (Nat.le_of_succ_le_succ hk)

end Lexes

end LineScopes.Selector
