/-
What the tokens of a text say.

The tokens of a text are found from left to right.  A text that ends where no name goes on says
the same, whatever stands behind it.

* `lead` — the token that a text begins with, and `scanFrom_zero_cons`, by which the tokens of a
  text are that one and those behind it;
* `kinds` — what the tokens of a text say, without their places; there is an equation for every
  way in which a text can begin;
* `Scans` — a text says these tokens wherever it is `Delimited`;
* `scans_run` — so do characters that can stand in a name: hyphens, and the name behind them;
* `Scans.intercalate` — so do texts with a separator between them;
* `exists_of_name_mem_kinds` — how the names of a text are written.
-/
import LineScopes.Proofs.SelectorGrammar
import Mathlib.Data.List.TakeWhile

namespace LineScopes.Selector

/-! ### The first token -/

/-- The token that begins with the character, if one does, and how many of the characters behind it
belong to that token. -/
def lead (c : Char) (cs : List Char) : Option TokenKind × Nat :=
  if c = 'L' ∧ cs.head? = some ':' then (some .left, 1)
  else if c = 'R' ∧ cs.head? = some ':' then (some .right, 1)
  else if startsName c then
    (some (.name (c :: cs.takeWhile continuesName)), (cs.takeWhile continuesName).length)
  else (sign? c, 0)

/-- That token comes first, and what belongs to it is passed over. -/
theorem scanFrom_zero_cons (pos : Nat) (c : Char) (cs : List Char) :
    scanFrom 0 pos (c :: cs) =
      (lead c cs).1.toList.map (Token.mk · pos) ++
        scanFrom (lead c cs).2 (pos + c.utf8Size) cs := by
  rw [scanFrom]
  unfold lead
  split
  · rfl
  split
  · rfl
  split
  · rfl
  · cases sign? c <;> rfl

/-! ### What tokens say -/

/-- What the tokens of a text say, in order. -/
def kinds (cs : List Char) : List TokenKind := (scan cs).map Token.kind

@[simp] theorem kinds_nil : kinds [] = [] := rfl

/-- What tokens say depends neither on their place nor on what is passed over. -/
theorem map_kind_scanFrom (skip pos : Nat) (cs : List Char) :
    (scanFrom skip pos cs).map Token.kind = kinds (cs.drop skip) := by
  suffices h : ∀ pos', (scanFrom skip pos cs).map Token.kind =
      (scanFrom 0 pos' (cs.drop skip)).map Token.kind from h 0
  induction cs generalizing skip pos with
  | nil => simp [scanFrom]
  | cons c cs ih =>
    intro pos'
    cases skip with
    | succ skip =>
      rw [scanFrom, List.drop_succ_cons]
      exact ih skip _ _
    | zero =>
      have hsame : ∀ skip next next', (scanFrom skip next cs).map Token.kind =
          (scanFrom skip next' cs).map Token.kind := fun skip next next' => by
        rw [ih skip next 0, ih skip next' 0]
      -- Which token comes first depends on the characters alone.
      rw [List.drop_zero, scanFrom_zero_cons, scanFrom_zero_cons, List.map_append, List.map_append,
        hsame _ _ (pos' + c.utf8Size), List.map_map, List.map_map]
      rfl

/-! ### What a text can begin with -/

theorem kinds_anchor (a : Anchor) (cs : List Char) :
    kinds (a.toText.toList ++ cs) = anchorTokens a ++ kinds cs := by
  cases a with
  | free => rfl
  | left =>
    show (scanFrom 0 0 ('L' :: ':' :: cs)).map Token.kind = _
    simp [scanFrom, anchorTokens, map_kind_scanFrom]
  | right =>
    show (scanFrom 0 0 ('R' :: ':' :: cs)).map Token.kind = _
    simp [scanFrom, anchorTokens, map_kind_scanFrom]

theorem mem_of_sign?_eq_some {c : Char} {kind : TokenKind} (h : sign? c = some kind) :
    (c, kind) ∈ [(',', .comma), ('|', .bar), ('-', .minus), ('(', .opening),
      (')', TokenKind.closing)] := by
  unfold sign? at h
  grind

/-- No sign begins a name. -/
theorem kinds_sign {c : Char} {kind : TokenKind} (h : sign? c = some kind) (cs : List Char) :
    kinds (c :: cs) = kind :: kinds cs := by
  have hsigns : ∀ s ∈ [(',', .comma), ('|', .bar), ('-', .minus), ('(', .opening),
      (')', TokenKind.closing)], startsName s.1 = false ∧ s.1 ≠ 'L' ∧ s.1 ≠ 'R' := by decide
  have hc := hsigns _ (mem_of_sign?_eq_some h)
  rw [kinds, scan, scanFrom]
  simp [hc, h, map_kind_scanFrom]

theorem kinds_blank (cs : List Char) : kinds (' ' :: cs) = kinds cs := by
  have hc : startsName ' ' = false ∧ sign? ' ' = none := by decide
  rw [kinds, scan, scanFrom]
  simp [hc, map_kind_scanFrom]

/-- No name goes on here, and no anchor ends here. -/
def Delimited (rest : List Char) : Prop := ∀ c ∈ rest.head?, continuesName c = false ∧ c ≠ ':'

theorem kinds_name {c : Char} {cs rest : List Char} (hc : startsName c)
    (hcs : ∀ c ∈ cs, continuesName c) (hrest : Delimited rest) :
    kinds (c :: cs ++ rest) = .name (c :: cs) :: kinds rest := by
  -- A name can begin like an anchor, but no colon follows.
  have hcolon : (cs ++ rest).head? ≠ some ':' := by
    cases cs with
    | nil => exact fun h => (hrest _ h).2 rfl
    | cons d cs =>
      rintro h
      have hd := hcs d (by simp)
      obtain rfl : d = ':' := by simpa using h
      revert hd
      decide
  have htail : (cs ++ rest).takeWhile continuesName = cs := by
    rw [List.takeWhile_append_of_pos hcs]
    cases rest with
    | nil => simp
    | cons d rest => simp [(hrest d rfl).1]
  rw [kinds, scan, List.cons_append, scanFrom]
  simp only [hcolon, and_false, if_false, hc, if_true, htail, List.map_cons, map_kind_scanFrom]
  rw [List.drop_left]

/-! ### What a text says -/

/-- The text says these tokens, wherever it is delimited. -/
def Scans (cs : List Char) (ts : List TokenKind) : Prop :=
  ∀ rest, Delimited rest → kinds (cs ++ rest) = ts ++ kinds rest

theorem Scans.kinds_eq {cs : List Char} {ts : List TokenKind} (h : Scans cs ts) :
    kinds cs = ts := by
  have h := h [] (by simp [Delimited])
  rwa [List.append_nil, kinds_nil, List.append_nil] at h

/-- What characters that can stand in a name say: the hyphens in front, and the name that begins
behind them. -/
def runKinds : List Char → List TokenKind
  | [] => []
  | c :: cs => if c = '-' then .minus :: runKinds cs else [.name (c :: cs)]

theorem scans_run {cs : List Char} (h : ∀ c ∈ cs, continuesName c) : Scans cs (runKinds cs) := by
  intro rest hrest
  induction cs with
  | nil => rfl
  | cons c cs ih =>
    have hcs : ∀ c ∈ cs, continuesName c := fun d hd => h d (List.mem_cons_of_mem _ hd)
    rw [runKinds]
    split
    · next hc =>
      rw [hc, List.cons_append, kinds_sign (by rfl : sign? '-' = some .minus), ih hcs,
        List.cons_append]
    · next hc =>
      have hstarts : startsName c := by
        have hcontinues := h c (by simp)
        simpa [startsName, continuesName, hc] using hcontinues
      rw [kinds_name hstarts hcs hrest, List.singleton_append]

/-- Texts with a separator between them say what they say and what the separator says. -/
theorem Scans.intercalate {separator : List Char} {between : List TokenKind}
    (hdelimited : ∀ rest, Delimited (separator ++ rest))
    (hseparator : ∀ rest, kinds (separator ++ rest) = between ++ kinds rest)
    {texts : List (List Char)} {tss : List (List TokenKind)} (h : List.Forall₂ Scans texts tss) :
    Scans (separator.intercalate texts) (between.intercalate tss) := by
  induction h with
  | nil => exact fun rest _ => rfl
  | @cons cs ts texts tss hcs h ih =>
    cases h with
    | nil => simpa using hcs
    | @cons cs' ts' texts tss hcs' h =>
      intro rest hrest
      rw [List.intercalate_cons_cons, List.intercalate_cons_cons, List.append_assoc,
        List.append_assoc, hcs _ (hdelimited _), hseparator, ih rest hrest]
      simp

/-! ### The names of a text -/

/-- A name of a text begins with what a name can begin with, and goes on so. -/
theorem exists_of_name_mem_kinds {text : List Char} {cs : List Char}
    (h : .name text ∈ kinds cs) :
    ∃ c tail, text = c :: tail ∧ startsName c ∧ ∀ d ∈ tail, continuesName d := by
  suffices hfrom : ∀ skip pos, .name text ∈ (scanFrom skip pos cs).map Token.kind →
      ∃ c tail, text = c :: tail ∧ startsName c ∧ ∀ d ∈ tail, continuesName d from hfrom 0 0 h
  clear h
  induction cs with
  | nil => simp [scanFrom]
  | cons c cs ih =>
    intro skip pos h
    cases skip with
    | succ skip => exact ih _ _ h
    | zero =>
      unfold scanFrom at h
      dsimp only at h
      split at h
      · exact ih _ _ (by simpa using h)
      split at h
      · exact ih _ _ (by simpa using h)
      split at h
      · next hc =>
        rcases List.mem_cons.mp h with h | h
        · obtain rfl := TokenKind.name.inj h
          exact ⟨c, _, rfl, hc, fun d hd => List.mem_takeWhile_imp hd⟩
        · exact ih _ _ h
      split at h
      · next kind hkind =>
        rcases List.mem_cons.mp h with h | h
        · have hsign := mem_of_sign?_eq_some (hkind.trans (congrArg some h.symm))
          simp at hsign
        · exact ih _ _ h
      · exact ih _ _ h

end LineScopes.Selector
