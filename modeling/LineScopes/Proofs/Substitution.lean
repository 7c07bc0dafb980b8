/-
References and what stands for them.

The closing pattern of a region is cut into pieces from left to right, and each piece is
replaced by itself.  A reference becomes the escaped text of its group, whatever that text
is; nothing that is put in is cut again.

* `Cuts` — some pieces make up a text, and each of them is as long as it can be; there is
  one way to cut a text (`cuts_iff`);
* `Writes` — a run of digits writes a number, and `Captured` — a group of a match took part
  and holds a text of the line;
* `Becomes` — what stands for a piece in the resolved pattern; `becomes_iff` says that this
  is what `Piece.resolve` computes;
* `resolution_replaces_references` — the pattern that is used in the end, resolved or not,
  is what stands for its pieces, one behind the other.

Design notes: a piece is a reference by its first digit, but its number is read from all
of them.  So there are references without a number, and they stay as they are; there are
no numbers without a reference (`isReference_of_readWord`), so that a pattern without
references is its own resolution.
-/
import LineScopes.BackReference
import LineScopes.Proofs.SpanTexts
import Mathlib.Data.List.Forall2
import Mathlib.Data.List.TakeWhile

namespace LineScopes

/-! ### Numbers -/

namespace Text

theorem digitsFrom_eq_some_iff {cs : List Char} : ∀ {n k : Nat},
    digitsFrom n cs = some k ↔ (∀ c ∈ cs, c.isDigit) ∧ Nat.ofDigitChars 10 cs n = k := by
  induction cs with
  | nil => simp [digitsFrom]
  | cons c cs ih =>
    intro n k
    rw [digitsFrom, Nat.ofDigitChars_cons, List.forall_mem_cons]
    by_cases hc : c.isDigit
    · rw [if_pos hc, ih]
      simp only [hc, true_and]
    · rw [if_neg hc]
      exact ⟨nofun, fun h => absurd h.1.1 hc⟩

end Text

namespace BackReference

/-- The characters are digits from `0` to `9`, and in decimal they write the number. -/
def Writes (run : List Char) (n : Nat) : Prop :=
  run ≠ [] ∧ (∀ c ∈ run, c.isDigit) ∧ Nat.ofDigitChars 10 run 0 = n

theorem readDigits_eq_some_iff {run : List Char} {n : Nat} :
    Text.readDigits run = some n ↔ Writes run n := by
  unfold Text.readDigits Writes
  cases run with
  | nil => simp
  | cons c cs =>
    rw [List.isEmpty_cons, if_neg Bool.false_ne_true, Text.digitsFrom_eq_some_iff]
    simp

/-- A text that does not begin with a plus sign is read as the number that it writes, if that is
one of 64 bits. -/
theorem readWord_eq_some_iff {run : List Char} (hplus : run.head? ≠ some '+') {n : Nat} :
    Text.readWord run = some n ↔ Writes run n ∧ n ≤ Text.maxWord := by
  have hdigits : Text.readWord run = (Text.readDigits run).filter (· ≤ Text.maxWord) := by
    unfold Text.readWord
    split
    · exact absurd rfl hplus
    · rfl
  rw [hdigits, Option.filter_eq_some_iff, readDigits_eq_some_iff]
  simp

/-! ### Pieces -/

/-- The pieces make up the text.  A digit escape has all the digits that follow its backslash, any
other escape has no digit, and a backslash stands alone at the end only. -/
inductive Cuts : List Char → List Piece → Prop
  | nil : Cuts [] []
  | digits {run rest : List Char} {ps : List Piece} (hne : run ≠ [])
      (hrun : ∀ c ∈ run, Unicode.isDecimalDigit c)
      (hrest : ∀ c ∈ rest.head?, Unicode.isDecimalDigit c = false) (h : Cuts rest ps) :
      Cuts ('\\' :: (run ++ rest)) (.digits run :: ps)
  | escape {c : Char} {rest : List Char} {ps : List Piece}
      (hc : Unicode.isDecimalDigit c = false) (h : Cuts rest ps) :
      Cuts ('\\' :: c :: rest) (.escape c :: ps)
  | plain {c : Char} {rest : List Char} {ps : List Piece} (hc : c = '\\' → rest = [])
      (h : Cuts rest ps) : Cuts (c :: rest) (.plain c :: ps)

/-- Behind all digits that follow, there is none. -/
theorem isDecimalDigit_head?_dropWhile (cs : List Char) :
    ∀ c ∈ (cs.dropWhile Unicode.isDecimalDigit).head?, Unicode.isDecimalDigit c = false := by
  intro c hc
  have hhead := List.head?_dropWhile_not Unicode.isDecimalDigit cs
  rw [Option.mem_def.mp hc] at hhead
  simpa using hhead

/-- Pieces that are passed over leave no trace. -/
theorem piecesFrom_eq (skip : Nat) (cs : List Char) : piecesFrom skip cs = pieces (cs.drop skip) := by
  induction cs generalizing skip with
  | nil => simp [piecesFrom, pieces]
  | cons c cs ih =>
    cases skip with
    | zero => rfl
    | succ skip => exact ih skip

theorem pieces_digits {run rest : List Char} (hne : run ≠ [])
    (hrun : ∀ c ∈ run, Unicode.isDecimalDigit c)
    (hrest : ∀ c ∈ rest.head?, Unicode.isDecimalDigit c = false) :
    pieces ('\\' :: (run ++ rest)) = .digits run :: pieces rest := by
  obtain ⟨d, ds, rfl⟩ := List.exists_cons_of_ne_nil hne
  have hmaximal : rest.takeWhile Unicode.isDecimalDigit = [] := by
    cases rest with
    | nil => rfl
    | cons c rest => simp [hrest c rfl]
  have htake : (d :: (ds ++ rest)).takeWhile Unicode.isDecimalDigit = d :: ds := by
    rw [← List.cons_append, List.takeWhile_append_of_pos hrun, hmaximal, List.append_nil]
  rw [pieces, List.cons_append, piecesFrom]
  simp only [htake, List.isEmpty_cons, Bool.false_eq_true, if_false, if_true, piecesFrom_eq]
  rw [← List.cons_append, List.drop_left]

theorem pieces_escape {c : Char} (hc : Unicode.isDecimalDigit c = false) (rest : List Char) :
    pieces ('\\' :: c :: rest) = .escape c :: pieces rest := by
  have htake : (c :: rest).takeWhile Unicode.isDecimalDigit = [] := by simp [hc]
  rw [pieces, piecesFrom]
  simp only [htake, List.isEmpty_nil, if_true, piecesFrom_eq, List.drop_succ_cons, List.drop_zero]

theorem pieces_plain {c : Char} {rest : List Char} (hc : c = '\\' → rest = []) :
    pieces (c :: rest) = .plain c :: pieces rest := by
  by_cases hslash : c = '\\'
  · rw [hslash, hc hslash]
    rfl
  · unfold pieces
    rw [piecesFrom.eq_def]
    exact if_neg hslash

/-- A text has no pieces but its own. -/
theorem Cuts.eq_pieces {cs : List Char} {ps : List Piece} (h : Cuts cs ps) : ps = pieces cs := by
  induction h with
  | nil => rfl
  | digits hne hrun hrest h ih => rw [pieces_digits hne hrun hrest, ih]
  | escape hc h ih => rw [pieces_escape hc, ih]
  | plain hc h ih => rw [pieces_plain hc, ih]

/-- Its own pieces make it up. -/
theorem cuts_pieces (cs : List Char) : Cuts cs (pieces cs) := by
  -- The rest behind a digit escape is shorter, but is not the tail of the text.
  induction hn : cs.length using Nat.strong_induction_on generalizing cs with
  | h n ih =>
    subst hn
    cases cs with
    | nil => exact .nil
    | cons c cs =>
      by_cases hlone : c = '\\' → cs = []
      · rw [pieces_plain hlone]
        exact .plain hlone (ih _ (by simp) cs rfl)
      · obtain ⟨rfl, hne⟩ := Classical.not_imp.mp hlone
        obtain ⟨d, ds, rfl⟩ := List.exists_cons_of_ne_nil hne
        by_cases hd : Unicode.isDecimalDigit d
        · have hsplit := List.takeWhile_append_dropWhile (p := Unicode.isDecimalDigit) (l := d :: ds)
          have hrun : (d :: ds).takeWhile Unicode.isDecimalDigit ≠ [] := by simp [hd]
          have hall : ∀ c ∈ (d :: ds).takeWhile Unicode.isDecimalDigit,
              Unicode.isDecimalDigit c := fun c hc => List.mem_takeWhile_imp hc
          have hrest := isDecimalDigit_head?_dropWhile (d :: ds)
          rw [← hsplit, pieces_digits hrun hall hrest]
          refine .digits hrun hall hrest (ih _ ?_ _ rfl)
          have hlength := List.length_dropWhile_le Unicode.isDecimalDigit (d :: ds)
          simp only [List.length_cons] at hlength ⊢
          omega
        · rw [pieces_escape (by simpa using hd)]
          exact .escape (by simpa using hd) (ih _ (by simp only [List.length_cons]; omega) ds rfl)

/-- There is one way to cut a text. -/
theorem cuts_iff {cs : List Char} {ps : List Piece} : Cuts cs ps ↔ ps = pieces cs :=
  ⟨Cuts.eq_pieces, fun h => h ▸ cuts_pieces cs⟩

/-- Pieces are the text that they make up. -/
theorem Cuts.flatMap_chars {cs : List Char} {ps : List Piece} (h : Cuts cs ps) :
    ps.flatMap Piece.chars = cs := by
  induction h with
  | nil => rfl
  | digits hne hrun hrest h ih => rw [List.flatMap_cons, ih]; rfl
  | escape hc h ih => rw [List.flatMap_cons, ih]; rfl
  | plain hc h ih => rw [List.flatMap_cons, ih]; rfl

theorem Cuts.isDecimalDigit_of_mem {cs : List Char} {ps : List Piece} (h : Cuts cs ps)
    {run : List Char} (hmem : .digits run ∈ ps) : ∀ c ∈ run, Unicode.isDecimalDigit c := by
  induction h with
  | nil => cases hmem
  | digits hne hrun hrest h ih =>
    rcases List.mem_cons.mp hmem with heq | hmem
    · obtain rfl := Piece.digits.inj heq
      exact hrun
    · exact ih hmem
  | escape hc h ih => exact ih ((List.mem_cons.mp hmem).resolve_left nofun)
  | plain hc h ih => exact ih ((List.mem_cons.mp hmem).resolve_left nofun)

/-! ### Replacements -/

/-- The group of the match took part in it, and its span holds the text of the line. -/
def Captured (line : String) (found : Match) (group : Nat) (text : String) : Prop :=
  ∃ before after : String, line = before ++ text ++ after ∧
    found.group? group = some ⟨before.utf8ByteSize, (before ++ text).utf8ByteSize⟩

theorem captured_iff {line : String} {found : Match} {group : Nat} {text : String} :
    Captured line found group text ↔
      (found.group? group).bind (fun span => span.chars? line.toList) = some text.toList := by
  constructor
  · rintro ⟨before, after, rfl, hgroup⟩
    rw [hgroup, Option.bind_some, Span.chars?_eq_some_iff]
    refine ⟨before.toList, after.toList, by simp, ?_⟩
    rw [← String.toList_append, Text.byteSize_toList, Text.byteSize_toList]
  · intro h
    obtain ⟨span, hgroup, hspan⟩ := Option.bind_eq_some_iff.mp h
    obtain ⟨pre, post, hline, rfl⟩ := Span.chars?_eq_some_iff.mp hspan
    refine ⟨String.ofList pre, String.ofList post, ?_, ?_⟩
    · rw [← String.toList_inj]
      simp [hline]
    · rw [hgroup, ← Text.byteSize_toList, ← Text.byteSize_toList]
      simp

/-- What stands for a piece: the escaped text of the group that it refers to by number, nothing if
that group has no text, and the piece itself if it has no number of 64 bits. -/
inductive Becomes (line : String) (found : Match) : Piece → List Char → Prop
  | text {run : List Char} {n : Nat} {text : String} (hrun : Writes run n)
      (hn : n ≤ Text.maxWord) (htext : Captured line found n text) :
      Becomes line found (.digits run) (Pattern.escape text.toList)
  | nothing {run : List Char} {n : Nat} (hrun : Writes run n) (hn : n ≤ Text.maxWord)
      (hnone : ∀ text, ¬ Captured line found n text) : Becomes line found (.digits run) []
  | itself {p : Piece} (h : ∀ run n, p = .digits run → Writes run n → Text.maxWord < n) :
      Becomes line found p p.chars

theorem groupPattern_of_captured {line : String} {found : Match} {group : Nat} {text : String}
    (h : Captured line found group text) :
    groupPattern line.toList found group = Pattern.escape text.toList := by
  rw [groupPattern, captured_iff.mp h]

theorem groupPattern_of_not_captured {line : String} {found : Match} {group : Nat}
    (h : ∀ text, ¬ Captured line found group text) : groupPattern line.toList found group = [] := by
  unfold groupPattern
  split
  · next text htext =>
    refine absurd (captured_iff.mpr ?_) (h (String.ofList text))
    rw [htext, String.toList_ofList]
  · rfl

theorem resolve_of_readWord {run : List Char} {n : Nat} (h : Text.readWord run = some n)
    (line : List Char) (found : Match) :
    (Piece.digits run).resolve line found = groupPattern line found n := by
  rw [Piece.resolve, h]

theorem resolve_of_readWord_eq_none {run : List Char} (h : Text.readWord run = none)
    (line : List Char) (found : Match) :
    (Piece.digits run).resolve line found = (Piece.digits run).chars := by
  rw [Piece.resolve, h]
  rfl

section Runs

variable {run : List Char} (hrun : ∀ c ∈ run, Unicode.isDecimalDigit c)
include hrun

/-- A plus sign is no digit of any script. -/
theorem head?_ne_plus : run.head? ≠ some '+' := by
  intro h
  have hplus := hrun '+' (List.mem_of_mem_head? h)
  revert hplus
  decide

/-- What is read as a number begins with a digit from `0` to `9`. -/
theorem isReference_of_readWord {n : Nat} (h : Text.readWord run = some n) :
    (Piece.digits run).isReference = true := by
  obtain ⟨⟨hne, hdigits, -⟩, -⟩ := (readWord_eq_some_iff (head?_ne_plus hrun)).mp h
  obtain ⟨d, ds, rfl⟩ := List.exists_cons_of_ne_nil hne
  exact hdigits d (by simp)

/-- One thing stands for a digit escape. -/
theorem becomes_digits_iff {line : String} {found : Match} {text : List Char} :
    Becomes line found (.digits run) text ↔
      text = (Piece.digits run).resolve line.toList found := by
  have hread := fun n => readWord_eq_some_iff (head?_ne_plus hrun) (n := n)
  constructor
  · intro h
    cases h with
    | text hwrites hn htext =>
      rw [resolve_of_readWord ((hread _).mpr ⟨hwrites, hn⟩), groupPattern_of_captured htext]
    | nothing hwrites hn hnone =>
      rw [resolve_of_readWord ((hread _).mpr ⟨hwrites, hn⟩), groupPattern_of_not_captured hnone]
    | itself hitself =>
      have hnone : Text.readWord run = none := by
        rw [Option.eq_none_iff_forall_ne_some]
        intro n hn
        obtain ⟨hwrites, hle⟩ := (hread n).mp hn
        exact absurd (hitself run n rfl hwrites) (Nat.not_lt.mpr hle)
      exact (resolve_of_readWord_eq_none hnone line.toList found).symm
  · rintro rfl
    cases hword : Text.readWord run with
    | none =>
      rw [resolve_of_readWord_eq_none hword]
      refine .itself fun run' n heq hwrites => Nat.lt_of_not_le fun hle => ?_
      obtain rfl := Piece.digits.inj heq
      cases hword.symm.trans ((hread n).mpr ⟨hwrites, hle⟩)
    | some n =>
      obtain ⟨hwrites, hle⟩ := (hread n).mp hword
      rw [resolve_of_readWord hword]
      by_cases hcaptured : ∃ text, Captured line found n text
      · obtain ⟨text, htext⟩ := hcaptured
        rw [groupPattern_of_captured htext]
        exact .text hwrites hle htext
      · have hnone := not_exists.mp hcaptured
        rw [groupPattern_of_not_captured hnone]
        exact .nothing hwrites hle hnone

end Runs

/-- What is no digit escape stands for itself. -/
theorem becomes_iff_of_ne_digits {line : String} {found : Match} {p : Piece} {text : List Char}
    (h : ∀ run, p ≠ .digits run) : Becomes line found p text ↔ text = p.chars := by
  constructor
  · intro hbecomes
    cases hbecomes with
    | text => exact absurd rfl (h _)
    | nothing => exact absurd rfl (h _)
    | itself => rfl
  · rintro rfl
    exact .itself fun run _ heq => absurd heq (h run)

/-- One thing stands for each piece of a text. -/
theorem becomes_iff {cs : List Char} {ps : List Piece} (h : Cuts cs ps) {p : Piece} (hp : p ∈ ps)
    {line : String} {found : Match} {text : List Char} :
    Becomes line found p text ↔ text = p.resolve line.toList found := by
  cases p with
  | digits run => exact becomes_digits_iff (h.isDecimalDigit_of_mem hp)
  | escape c => exact becomes_iff_of_ne_digits nofun
  | plain c => exact becomes_iff_of_ne_digits nofun

theorem forall₂_iff_eq_map {α β : Type} {R : α → β → Prop} {f : α → β} {as : List α} :
    ∀ {bs : List β}, (∀ a ∈ as, ∀ b, R a b ↔ b = f a) →
      (List.Forall₂ R as bs ↔ bs = as.map f) := by
  induction as with
  | nil => simp
  | cons a as ih =>
    intro bs h
    rw [List.forall_mem_cons] at h
    rw [List.forall₂_cons_left_iff, List.map_cons]
    constructor
    · rintro ⟨b, bs, hb, hbs, rfl⟩
      rw [(h.1 b).mp hb, (ih h.2).mp hbs]
    · rintro rfl
      exact ⟨_, _, (h.1 _).mpr rfl, (ih h.2).mpr rfl, rfl⟩

/-! ### The resolved pattern -/

theorem resolve?_eq_none_iff {pattern line : String} {found : Match} :
    resolve? pattern line found = none ↔ ∀ p ∈ pieces pattern.toList, p.isReference = false := by
  unfold resolve?
  dsimp only
  split
  · next h =>
    obtain ⟨p, hp, hreference⟩ := List.any_eq_true.mp h
    exact ⟨nofun, fun hnone => by rw [hnone p hp] at hreference; cases hreference⟩
  · next h =>
    simp only [List.any_eq_true, not_exists, not_and, Bool.not_eq_true] at h
    exact ⟨fun _ => h, fun _ => rfl⟩

theorem toList_of_resolve?_eq_some {pattern line r : String} {found : Match}
    (h : resolve? pattern line found = some r) :
    r.toList = (pieces pattern.toList).flatMap (Piece.resolve line.toList found) := by
  unfold resolve? at h
  dsimp only at h
  split at h
  · rw [← Option.some.inj h, String.toList_ofList]
  · cases h

theorem isReference_eq_true_iff {p : Piece} :
    p.isReference = true ↔ ∃ d ds, p = .digits (d :: ds) ∧ d.isDigit := by
  constructor
  · intro h
    unfold Piece.isReference at h
    split at h
    · next d ds => exact ⟨d, ds, rfl, h⟩
    · cases h
  · rintro ⟨d, ds, rfl, hd⟩
    exact hd

/-- A piece that is no reference is not replaced. -/
theorem resolve_eq_chars {cs : List Char} {ps : List Piece} (h : Cuts cs ps) {p : Piece}
    (hp : p ∈ ps) (hreference : p.isReference = false) (line : List Char) (found : Match) :
    p.resolve line found = p.chars := by
  cases p with
  | digits run =>
    cases hword : Text.readWord run with
    | none => exact resolve_of_readWord_eq_none hword line found
    | some n =>
      rw [isReference_of_readWord (h.isDecimalDigit_of_mem hp) hword] at hreference
      cases hreference
  | escape c => rfl
  | plain c => rfl

/-- A pattern has one division into pieces, and one text stands for each of them.  There is nothing
to resolve exactly if no piece is a backslash with a run of digits the first of which is one of `0`
to `9`.  The pattern that is used, which is the resolved one or, if there is nothing to resolve, the
pattern itself, is those texts one behind the other. -/
theorem resolution_replaces_references (pattern line : String) (found : Match) :
    ∃ ps texts, (∀ qs, Cuts pattern.toList qs ↔ qs = ps) ∧
      (∀ ts, List.Forall₂ (Becomes line found) ps ts ↔ ts = texts) ∧
      (resolve? pattern line found = none ↔
        ¬ ∃ d ds, Piece.digits (d :: ds) ∈ ps ∧ d.isDigit) ∧
      ((resolve? pattern line found).getD pattern).toList = texts.flatten := by
  have hcuts := cuts_pieces pattern.toList
  refine ⟨pieces pattern.toList,
    (pieces pattern.toList).map (Piece.resolve line.toList found), fun qs => cuts_iff,
    fun ts => forall₂_iff_eq_map fun p hp text => becomes_iff hcuts hp, ?_, ?_⟩
  · rw [resolve?_eq_none_iff]
    constructor
    · rintro hnone ⟨d, ds, hmem, hd⟩
      have hreference : (Piece.digits (d :: ds)).isReference = true := hd
      rw [hnone _ hmem] at hreference
      cases hreference
    · intro hnone p hp
      rw [← Bool.not_eq_true, isReference_eq_true_iff]
      rintro ⟨d, ds, rfl, hd⟩
      exact hnone ⟨d, ds, hp, hd⟩
  · rw [← List.flatMap_def]
    cases hresolve : resolve? pattern line found with
    | none =>
      -- Nothing is replaced, and the pieces are the pattern.
      have hnone := resolve?_eq_none_iff.mp hresolve
      rw [Option.getD_none, List.flatMap_congr fun p hp =>
        resolve_eq_chars hcuts hp (hnone p hp) line.toList found, hcuts.flatMap_chars]
    | some r =>
      rw [Option.getD_some, toList_of_resolve?_eq_some hresolve]

-- A backslash and a digit that come from two groups make no reference.
example : resolve? "\\1\\2\\\\1" "\\1" ⟨⟨0, 2⟩, [some ⟨0, 1⟩, some ⟨1, 2⟩]⟩ =
    some "\\\\1\\\\1" := by decide +kernel

end BackReference

end LineScopes
