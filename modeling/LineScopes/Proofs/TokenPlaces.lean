/-
Where the tokens of a text stand.

The bytes of a text are divided among its tokens and the characters between them.  Which
characters may be between, and how far a token reaches, can be said without a lexer, and says
enough to tell the tokens.

* `Token.Stands` — a token stands in a text and fits what is behind it;
* `TokensOf` — the tokens of a text, by their places and the characters in them and between
  them; `Lexes.tokensOf` says that what a lexer finds are such, and `TokensOf.eq` that there
  are no others;
* `lexer_finds_tokens_of_text` — the answers of a lexer, one after the other.
-/
import LineScopes.Proofs.SelectorLexer
import LineScopes.Proofs.SpanTexts

namespace LineScopes.Selector

/-! ### Places -/

/-- A character of a token that is no name is the letter of an anchor, or its colon, or a sign. -/
theorem TokenKind.cases_of_chars {kind : TokenKind} {before after : List Char} {c : Char}
    (h : kind.chars = before ++ c :: after) :
    (∃ text, kind = .name text) ∨
    (before = [] ∧ (c = 'L' ∨ c = 'R') ∧ after = [':']) ∨
    ((kind = .left ∨ kind = .right) ∧ Text.byteSize before = 1 ∧ c = ':') ∨ c ∈ signs := by
  cases kind with
  | name text => exact .inl ⟨text, rfl⟩
  | left | right =>
    rcases before with _ | ⟨letter, _ | ⟨d, before⟩⟩
    · obtain ⟨rfl, rfl⟩ := List.cons.inj h
      exact .inr (.inl ⟨rfl, by simp, rfl⟩)
    · obtain ⟨rfl, hrest⟩ := List.cons.inj h
      obtain ⟨rfl, -⟩ := List.cons.inj hrest
      exact .inr (.inr (.inl ⟨by simp, rfl, rfl⟩))
    · simp [TokenKind.chars] at h
  | comma | bar | minus | opening | closing =>
    rcases before with _ | ⟨sign, before⟩
    · obtain ⟨rfl, -⟩ := List.cons.inj h
      exact .inr (.inr (.inr (by decide)))
    · simp [TokenKind.chars] at h

/-- A name that is as long as it can be ends behind all characters with which it could go on. -/
theorem byteSize_lt_of_maximal {run after rest back : List Char} {d : Char}
    (h : run ++ d :: back = after ++ rest) (hrun : ∀ x ∈ run, continuesName x)
    (hd : continuesName d) (hrest : ∀ x ∈ rest.head?, continuesName x = false) :
    Text.byteSize run < Text.byteSize after := by
  -- Otherwise a character with which it could go on would be the first one behind it.
  by_contra hle
  obtain ⟨mid, rfl, rfl⟩ := Text.exists_middle h.symm (Nat.le_of_not_lt hle)
  rcases mid with _ | ⟨x, mid⟩
  · rw [hrest d rfl] at hd
    cases hd
  · have hx := hrun x (List.mem_append_right after (List.mem_cons_self ..))
    rw [hrest x rfl] at hx
    cases hx

/-- The token stands in the text: its bytes hold its text, and what is behind them fits. -/
def Token.Stands (source : List Char) (t : Token) : Prop :=
  ∃ front rest, source = front ++ (t.kind.chars ++ rest) ∧ t.start = Text.byteSize front ∧
    t.kind.Fits rest

namespace Token.Stands

variable {source : List Char} {t : Token}

theorem span_eq {front : List Char} (h : t.start = Text.byteSize front) :
    t.span = ⟨Text.byteSize front, Text.byteSize (front ++ t.kind.chars)⟩ := by
  rw [Token.span, Text.byteSize_append, TokenKind.byteSize_chars, h]

theorem holds (h : t.Stands source) : t.span.chars? source = some t.kind.chars := by
  obtain ⟨front, rest, rfl, hstart, -⟩ := h
  rw [span_eq hstart]
  exact Span.chars?_append front t.kind.chars rest

theorem nonempty (h : t.Stands source) : t.span.start < t.span.stop := by
  obtain ⟨front, rest, -, hstart, hfits⟩ := h
  obtain ⟨c, tail, hchars, -⟩ := hfits.exists_cons
  have hpos := c.utf8Size_pos
  rw [span_eq hstart, Text.byteSize_append, hchars, Text.byteSize_cons]
  show Text.byteSize front < Text.byteSize front + _
  omega

/-- A character that begins in a token belongs to its text. -/
theorem exists_between (h : t.Stands source) {front back : List Char} {c : Char}
    (hsource : source = front ++ c :: back) (hin : t.span.contains (Text.byteSize front) = true) :
    ∃ before after rest, t.kind.chars = before ++ c :: after ∧ back = after ++ rest ∧
      Text.byteSize front = t.start + Text.byteSize before ∧ t.kind.Fits rest := by
  obtain ⟨pre, rest, rfl, hstart, hfits⟩ := h
  rw [span_eq hstart, Span.contains_iff] at hin
  obtain ⟨before, after, rfl, hchars, rfl⟩ := Text.exists_between hsource hin.1 hin.2
  exact ⟨before, after, rest, hchars, rfl, by rw [hstart, Text.byteSize_append], hfits⟩

/-- Tokens are made of certain characters alone, except for the colon of an anchor. -/
theorem made (h : t.Stands source) {front back : List Char} {c : Char}
    (hsource : source = front ++ c :: back) (hin : t.span.contains (Text.byteSize front) = true) :
    isTokenChar c = true ∨
      c = ':' ∧ (t.kind = .left ∨ t.kind = .right) ∧ Text.byteSize front = t.start + 1 := by
  obtain ⟨before, after, rest, hchars, -, hfront, hfits⟩ := h.exists_between hsource hin
  rcases TokenKind.cases_of_chars hchars with
    ⟨text, hkind⟩ | ⟨-, hletter, -⟩ | ⟨hanchor, hone, hcolon⟩ | hsign
  · left
    have hmem : c ∈ t.kind.chars := by
      rw [hchars]
      exact List.mem_append_right before (List.mem_cons_self ..)
    rw [hkind] at hmem hfits
    obtain ⟨⟨d, tail, rfl, hd, htail, -⟩, -⟩ := hfits
    rcases List.mem_cons.mp hmem with rfl | hmem
    · exact isTokenChar_iff.mpr (.inl hd)
    · exact isTokenChar_of_continuesName (htail c hmem)
  · left
    rcases hletter with rfl | rfl <;> decide
  · exact .inr ⟨hcolon, hanchor, by rw [hfront, hone]⟩
  · exact .inl (isTokenChar_iff.mpr (.inr hsign))

theorem names (h : t.Stands source) {text : List Char} (hkind : t.kind = .name text) :
    ∃ c tail, text = c :: tail ∧ startsName c ∧ ∀ d ∈ tail, continuesName d := by
  obtain ⟨front, rest, -, -, hfits⟩ := h
  rw [hkind] at hfits
  obtain ⟨⟨c, tail, htext, hc, htail, -⟩, -⟩ := hfits
  exact ⟨c, tail, htext, hc, htail⟩

/-- No name goes on behind a name. -/
theorem maximal (h : t.Stands source) {text : List Char} (hkind : t.kind = .name text)
    {front back : List Char} {c : Char} (hsource : source = front ++ c :: back)
    (hstop : Text.byteSize front = t.span.stop) : continuesName c = false := by
  obtain ⟨pre, rest, rfl, hstart, hfits⟩ := h
  rw [span_eq hstart] at hstop
  rw [← List.append_assoc] at hsource
  obtain ⟨-, rfl⟩ := Text.append_inj_of_byteSize hsource hstop.symm
  rw [hkind] at hfits
  exact hfits.2 c rfl

/-- A token that begins as an anchor is that anchor. -/
theorem anchors (h : t.Stands source) {front back : List Char} {c : Char}
    (hsource : source = front ++ c :: ':' :: back) (hstart : Text.byteSize front = t.start) :
    (c = 'L' → t.kind = .left) ∧ (c = 'R' → t.kind = .right) := by
  obtain ⟨pre, rest, rfl, hpre, hfits⟩ := h
  obtain ⟨-, htext⟩ := Text.append_inj_of_byteSize hsource (hpre.symm.trans hstart.symm)
  obtain ⟨hlexeme, hkind⟩ := hfits.lexeme?_chars
  rw [htext] at hlexeme
  constructor
  · rintro rfl
    obtain hchars : ['L', ':'] = t.kind.chars := Option.some.inj hlexeme
    rw [← hkind, ← hchars]
    rfl
  · rintro rfl
    obtain hchars : ['R', ':'] = t.kind.chars := Option.some.inj hlexeme
    rw [← hkind, ← hchars]
    rfl

/-- A token in which a name could begin, and would then reach a letter before a colon, is a name and
reaches that letter. -/
theorem inside (h : t.Stands source) {front run back : List Char} {c d : Char}
    (hsource : source = front ++ c :: (run ++ d :: ':' :: back)) (hc : startsName c)
    (hrun : ∀ x ∈ run, continuesName x) (hd : d = 'L' ∨ d = 'R')
    (hin : t.span.contains (Text.byteSize front) = true) :
    (∃ text, t.kind = .name text) ∧ t.span.contains (Text.byteSize (front ++ c :: run)) = true := by
  obtain ⟨before, after, rest, hchars, hafter, hfront, hfits⟩ := h.exists_between hsource hin
  have hletter : continuesName d := by
    rcases hd with rfl | rfl <;> decide
  rcases TokenKind.cases_of_chars hchars with
    ⟨text, hkind⟩ | ⟨-, -, rfl⟩ | ⟨-, -, rfl⟩ | hsign
  · refine ⟨⟨text, hkind⟩, ?_⟩
    rw [hkind] at hfits
    have hlonger := byteSize_lt_of_maximal hafter hrun hletter hfits.2
    have hstop : t.span.stop = t.start + Text.byteSize (before ++ c :: after) := by
      rw [← hchars, TokenKind.byteSize_chars]
      rfl
    have hstart : t.span.start = t.start := rfl
    rw [Span.contains_iff, hstop, hstart, Text.byteSize_append, Text.byteSize_append,
      Text.byteSize_cons, Text.byteSize_cons]
    omega
  · -- What follows the letter of an anchor is a colon, with which no name goes on.
    have hcolon : continuesName ':' := by
      rcases run with _ | ⟨x, run⟩
      · obtain ⟨rfl, -⟩ := List.cons.inj hafter
        exact hletter
      · obtain ⟨rfl, -⟩ := List.cons.inj hafter
        exact hrun ':' (List.mem_cons_self ..)
    exact absurd hcolon (by decide)
  · exact absurd hc (by decide)
  · rw [startsName_of_mem_signs hsign] at hc
    cases hc

end Token.Stands

/-! ### The places of a text -/

/-- The tokens are those of the text. -/
structure TokensOf (source : List Char) (ts : List Token) : Prop where
  /-- Every token has the text that its bytes hold. -/
  holds : ∀ t ∈ ts, t.span.chars? source = some t.kind.chars
  /-- No token is without bytes. -/
  nonempty : ∀ t ∈ ts, t.span.start < t.span.stop
  /-- Every token begins where those before it have ended, or later. -/
  apart : ts.Pairwise fun t u => t.span.stop ≤ u.span.start
  /-- What stands outside of all tokens is no character that tokens are made of. -/
  complete : ∀ front c back, source = front ++ c :: back →
    (∀ t ∈ ts, t.span.contains (Text.byteSize front) = false) → isTokenChar c = false
  /-- What stands in a token is such a character, or the colon of an anchor. -/
  made : ∀ t ∈ ts, ∀ front c back, source = front ++ c :: back →
    t.span.contains (Text.byteSize front) = true → isTokenChar c = true ∨
      c = ':' ∧ (t.kind = .left ∨ t.kind = .right) ∧ Text.byteSize front = t.start + 1
  /-- A name begins as names do and goes on as they do. -/
  names : ∀ t ∈ ts, ∀ text, t.kind = .name text →
    ∃ c tail, text = c :: tail ∧ startsName c ∧ ∀ d ∈ tail, continuesName d
  /-- A name ends where no name goes on. -/
  maximal : ∀ t ∈ ts, ∀ text, t.kind = .name text → ∀ front c back, source = front ++ c :: back →
    Text.byteSize front = t.span.stop → continuesName c = false
  /-- A token that begins as an anchor is that anchor. -/
  anchors : ∀ t ∈ ts, ∀ front c back, source = front ++ c :: ':' :: back →
    Text.byteSize front = t.start → (c = 'L' → t.kind = .left) ∧ (c = 'R' → t.kind = .right)
  /-- A letter that would begin an anchor belongs to a name if one goes on there. -/
  inside : ∀ front c run d back, source = front ++ c :: (run ++ d :: ':' :: back) →
    startsName c → (∀ x ∈ run, continuesName x) → d = 'L' ∨ d = 'R' →
    ∀ t ∈ ts, t.span.contains (Text.byteSize (front ++ c :: run)) = true →
      (∃ text, t.kind = .name text) ∧ t.start ≤ Text.byteSize front

/-- No byte belongs to two of the tokens. -/
theorem eq_of_contains {ts : List Token} (h : ts.Pairwise fun t u => t.span.stop ≤ u.span.start)
    {t u : Token} (ht : t ∈ ts) (hu : u ∈ ts) {b : Nat} (hbt : t.span.contains b = true)
    (hbu : u.span.contains b = true) : t = u := by
  obtain ⟨htstart, htstop⟩ := Span.contains_iff.mp hbt
  obtain ⟨hustart, hustop⟩ := Span.contains_iff.mp hbu
  induction h with
  | nil => cases ht
  | cons hfirst hrest ih =>
    rcases List.mem_cons.mp ht with rfl | ht' <;> rcases List.mem_cons.mp hu with rfl | hu'
    · rfl
    · have hle := hfirst u hu'
      omega
    · have hle := hfirst t ht'
      omega
    · exact ih ht' hu'

namespace Lexes

variable {pos : Nat} {cs : List Char} {ts : List Token}

theorem exists_place (h : Lexes pos cs ts) {t : Token} (ht : t ∈ ts) :
    ∃ front rest, cs = front ++ (t.kind.chars ++ rest) ∧ t.start = pos + Text.byteSize front ∧
      t.kind.Fits rest := by
  induction h with
  | nil => cases ht
  | @skip pos c cs ts hc h ih =>
    obtain ⟨front, rest, rfl, hstart, hfits⟩ := ih ht
    exact ⟨c :: front, rest, rfl, by rw [hstart, Text.byteSize_cons, Nat.add_assoc], hfits⟩
  | @token pos c tail rest ts htext h ih =>
    rcases List.mem_cons.mp ht with rfl | ht
    · exact ⟨[], rest, by simp, rfl, fits_of_lexeme? htext⟩
    · obtain ⟨front, rest, rfl, hstart, hfits⟩ := ih ht
      refine ⟨c :: tail ++ front, rest, by simp, ?_, hfits⟩
      rw [hstart, Text.byteSize_append, Nat.add_assoc]

theorem apart (h : Lexes pos cs ts) : ts.Pairwise fun t u => t.span.stop ≤ u.span.start := by
  induction h with
  | nil => exact .nil
  | skip hc h ih => exact ih
  | @token pos c tail rest ts htext h ih =>
    refine .cons ?_ ih
    intro u hu
    obtain ⟨front, _, -, hstart, -⟩ := h.exists_place hu
    rw [span_stop_ofText]
    show _ ≤ u.start
    omega

/-- No character that tokens are made of is passed over. -/
theorem exists_contains (h : Lexes pos cs ts) {front back : List Char} {c : Char}
    (hcs : cs = front ++ c :: back) (hc : isTokenChar c = true) :
    ∃ t ∈ ts, t.span.contains (pos + Text.byteSize front) = true := by
  induction h generalizing front with
  | nil => simp at hcs
  | @skip pos d cs ts hd h ih =>
    cases front with
    | nil =>
      -- Where nothing matches, the character is none that tokens are made of.
      obtain ⟨rfl, rfl⟩ := List.cons.inj hcs
      rcases lexeme?_cases d cs with ⟨tail, rest, -, -, htext, -⟩ | ⟨hnot, -, -⟩
      · rw [hd] at htext
        cases htext
      · rw [hnot] at hc
        cases hc
    | cons d' front =>
      obtain ⟨rfl, rfl⟩ := List.cons.inj hcs
      obtain ⟨t, ht, hin⟩ := ih rfl
      rw [Nat.add_assoc] at hin
      exact ⟨t, ht, hin⟩
  | @token pos d tail rest ts htext h ih =>
    -- The character stands in the token, or behind it.
    by_cases hin : Text.byteSize front < Text.byteSize (d :: tail)
    · refine ⟨_, List.mem_cons_self .., Span.contains_iff.mpr ⟨Nat.le_add_right pos _, ?_⟩⟩
      rw [span_stop_ofText]
      omega
    · rw [← List.cons_append] at hcs
      obtain ⟨mid, rfl, rfl⟩ := Text.exists_middle hcs (Nat.le_of_not_lt hin)
      obtain ⟨t, ht, hin⟩ := ih rfl
      rw [Nat.add_assoc, ← Text.byteSize_append] at hin
      exact ⟨t, List.mem_cons_of_mem _ ht, hin⟩

theorem stands (h : Lexes 0 cs ts) {t : Token} (ht : t ∈ ts) : t.Stands cs := by
  obtain ⟨front, rest, hcs, hstart, hfits⟩ := h.exists_place ht
  rw [Nat.zero_add] at hstart
  exact ⟨front, rest, hcs, hstart, hfits⟩

/-- What a lexer finds are the tokens of the text. -/
theorem tokensOf (h : Lexes 0 cs ts) : TokensOf cs ts where
  holds t ht := (h.stands ht).holds
  nonempty t ht := (h.stands ht).nonempty
  apart := h.apart
  complete front c back hcs hout := by
    by_contra hc
    obtain ⟨t, ht, hin⟩ := h.exists_contains hcs (Bool.not_eq_false _ ▸ hc)
    rw [Nat.zero_add, hout t ht] at hin
    cases hin
  made t ht front c back hcs hin := (h.stands ht).made hcs hin
  names t ht text hkind := (h.stands ht).names hkind
  maximal t ht text hkind front c back hcs hstop := (h.stands ht).maximal hkind hcs hstop
  anchors t ht front c back hcs hstart := (h.stands ht).anchors hcs hstart
  inside front c run d back hcs hc hrun hd t ht hin := by
    -- The token in which `c` stands reaches the letter, so that it is the one there.
    obtain ⟨u, hu, huc⟩ := h.exists_contains hcs (isTokenChar_iff.mpr (.inl hc))
    rw [Nat.zero_add] at huc
    obtain ⟨hname, hreaches⟩ := (h.stands hu).inside hcs hc hrun hd huc
    obtain rfl := eq_of_contains h.apart ht hu hin hreaches
    exact ⟨hname, (Span.contains_iff.mp huc).1⟩

end Lexes

namespace TokensOf

variable {source : List Char} {ts us : List Token}

theorem stands (h : TokensOf source ts) {t : Token} (ht : t ∈ ts) : t.Stands source := by
  obtain ⟨front, rest, hsource, hspan⟩ := Span.chars?_eq_some_iff.mp (h.holds t ht)
  have hstart : t.start = Text.byteSize front := congrArg Span.start hspan
  refine ⟨front, rest, hsource, hstart, ?_⟩
  cases hkind : t.kind with
  | name text =>
    obtain ⟨c, tail, rfl, hc, htail⟩ := h.names t ht text hkind
    refine ⟨⟨c, tail, rfl, hc, htail, ?_⟩, ?_⟩
    · intro hLR hcolon
      obtain ⟨back, hback⟩ := List.head?_eq_some_iff.mp hcolon
      rw [hkind] at hsource
      have hanchors := h.anchors t ht front c back (by rw [hsource, ← hback]; rfl) hstart.symm
      rw [hkind] at hanchors
      rcases hLR with hL | hR
      · cases hanchors.1 hL
      · cases hanchors.2 hR
    · intro d hd
      obtain ⟨back, rfl⟩ := List.head?_eq_some_iff.mp hd
      rw [← List.append_assoc] at hsource
      exact h.maximal t ht _ hkind _ d back hsource (congrArg Span.stop hspan).symm
  | left | right | comma | bar | minus | opening | closing => exact trivial

/-- Of the tokens that begin at one place, only one can be a token of the text. -/
theorem mem_of_mem (h : TokensOf source ts) (h' : TokensOf source us) {t : Token} (ht : t ∈ ts) :
    t ∈ us := by
  -- By the byte at which the token begins, and for both lists at once: what comes before it in one
  -- of them is known to be in the other.
  induction hn : t.start using Nat.strong_induction_on generalizing ts us t with
  | _ n ih =>
    obtain ⟨front, rest, hsource, hstart, hfits⟩ := h.stands ht
    obtain ⟨c, tail, hchars, hc⟩ := hfits.exists_cons
    have hcovered : ∃ u ∈ us, u.span.contains t.start = true := by
      by_contra hnone
      have hsource' : source = front ++ c :: (tail ++ rest) := by
        rw [hsource, hchars]
        rfl
      have hout := h'.complete front c _ hsource' fun u hu => by
        rw [← hstart, Bool.eq_false_iff]
        exact fun hin => hnone ⟨u, hu, hin⟩
      rw [hc] at hout
      cases hout
    obtain ⟨u, hu, hin⟩ := hcovered
    obtain ⟨hle, -⟩ := Span.contains_iff.mp hin
    rcases Nat.lt_or_eq_of_le hle with hlt | heq
    · -- A token of the other list that began earlier would be in this list too, and in the way.
      have hut : u ∈ ts := ih u.start (hn ▸ hlt) h' h hu rfl
      have hself : t.span.contains t.start = true :=
        Span.contains_iff.mpr ⟨Nat.le_refl _, h.nonempty t ht⟩
      rwa [eq_of_contains h.apart ht hut hself hin]
    · -- At one place only one token matches.
      obtain ⟨front', rest', hsource', hstart', hfits'⟩ := h'.stands hu
      obtain ⟨hlexeme, hkind⟩ := hfits.lexeme?_chars
      obtain ⟨hlexeme', hkind'⟩ := hfits'.lexeme?_chars
      have hsize : Text.byteSize front = Text.byteSize front' := by
        rw [← hstart, ← hstart']
        exact heq.symm
      obtain ⟨-, htext⟩ := Text.append_inj_of_byteSize (hsource.symm.trans hsource') hsize
      rw [htext, hlexeme'] at hlexeme
      have hkinds : t.kind = u.kind := by
        rw [← hkind, ← hkind', Option.some.inj hlexeme]
      have htu : t = u := by
        cases t
        cases u
        exact congrArg₂ Token.mk hkinds heq.symm
      rwa [htu]

theorem nodup (h : TokensOf source ts) : ts.Nodup := by
  refine h.apart.imp_of_mem ?_
  rintro t u ht hu hle rfl
  exact absurd (h.nonempty t ht) (Nat.not_lt.mpr hle)

/-- A text has no tokens but its own. -/
theorem eq (h : TokensOf source ts) (h' : TokensOf source us) : ts = us := by
  have hperm : ts.Perm us :=
    (List.perm_ext_iff_of_nodup h.nodup h'.nodup).mpr fun t => ⟨h.mem_of_mem h', h'.mem_of_mem h⟩
  refine hperm.eq_of_pairwise ?_ h.apart h'.apart
  intro t u ht hu htu hut
  have htspan := h.nonempty t ht
  have huspan := h'.nonempty u hu
  omega

end TokensOf

/-! ### One token after the other -/

/-- A lexer that is asked for the next token again and again finds the tokens of the text, one after
the other, and goes behind each; from then on it answers that the text has ended.  The tokens do not
overlap.  What they leave out are characters that tokens are not made of, and what they hold are
characters that they are made of, except for the colon of an anchor.  A name is as long as it can
be, and a letter in front of a colon is an anchor where a token begins, and part of a name where one
goes on.  All this is true of no other tokens. -/
theorem lexer_finds_tokens_of_text (source : String) :
    (∀ k t, (scan source.toList)[k]? = some t →
      (Lexer.ofString source).reply k = ⟨some t.kind, t.start⟩ ∧
      ((Lexer.ofString source).after (k + 1)).pos = t.span.stop) ∧
    (∀ k, (scan source.toList).length ≤ k →
      (Lexer.ofString source).reply k = ⟨none, source.utf8ByteSize⟩) ∧
    TokensOf source.toList (scan source.toList) ∧
    ∀ ts, TokensOf source.toList ts → ts = scan source.toList := by
  have hlexes : Lexes 0 source.toList (scan source.toList) := lexes_scanFrom 0 source.toList
  refine ⟨fun k t => hlexes.reply_of_getElem?, ?_, hlexes.tokensOf, fun ts h => ?_⟩
  · intro k hk
    rw [← Text.byteSize_toList, ← Nat.zero_add (Text.byteSize _)]
    exact hlexes.reply_of_length_le hk
  · exact h.eq hlexes.tokensOf

/-- The first letter in front of a colon is an anchor, since a hyphen begins no name.  The second
one belongs to a name, which a hyphen continues, and its colon is left out. -/
theorem lexer_finds_tokens_of_text_with_two_colons :
    let source := "-L:a-L:b *"
    let ts : List Token :=
      [⟨.minus, 0⟩, ⟨.left, 1⟩, ⟨.name ['a', '-', 'L'], 3⟩, ⟨.name ['b'], 7⟩]
    let l := Lexer.ofString source
    (l.reply 1 = ⟨some .left, 1⟩ ∧ (l.after 2).pos = 3) ∧
      (l.reply 2 = ⟨some (.name ['a', '-', 'L']), 3⟩ ∧ (l.after 3).pos = 6) ∧
      l.reply 4 = ⟨none, 10⟩ ∧ l.reply 100 = ⟨none, 10⟩ ∧ TokensOf source.toList ts ∧
      ¬ TokensOf source.toList (ts ++ [⟨.right, 9⟩]) := by
  intro source ts l
  obtain ⟨hfound, hend, htokens, hunique⟩ := lexer_finds_tokens_of_text source
  have hscan : scan source.toList = ts := by decide +kernel
  rw [hscan] at hfound hend htokens hunique
  exact ⟨hfound 1 _ rfl, hfound 2 _ rfl, hend 4 (by decide), hend 100 (by decide), htokens,
    fun h => absurd (hunique _ h) (by decide)⟩

end LineScopes.Selector
