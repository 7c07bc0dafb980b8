/-
References in resolved patterns.

A resolved pattern is put together of the texts of groups and of pieces that stay as they
are.  Cut again, it need not fall into the same pieces: a run of digits that stays goes on
with the digits of the text behind it.  But no reference comes up or is lost by that,
because a run is a reference by its first digit, and all that is put in is escaped.

* `refers` — whether some piece of a text is a reference; for each way in which a resolved
  pattern can begin there is an equation, with the rest general, of which `refers_digits`
  is the one where pieces run together;
* `refers_flatMap_resolve` — the references of a resolved pattern are those that had no
  number in the pattern;
* `resolved_pattern_closed_iff` — so nothing is left to resolve exactly if all references
  of the pattern have a number.
-/
import LineScopes.Proofs.Substitution

namespace LineScopes.BackReference

/-! ### References of a text -/

/-- Whether some piece of the text is a reference. -/
def refers (cs : List Char) : Bool := (pieces cs).any Piece.isReference

theorem resolve?_eq_none_iff_refers {pattern line : String} {found : Match} :
    resolve? pattern line found = none ↔ refers pattern.toList = false := by
  rw [resolve?_eq_none_iff, refers, List.any_eq_false]
  simp

theorem refers_plain {c : Char} (hc : c ≠ '\\') (rest : List Char) :
    refers (c :: rest) = refers rest := by
  rw [refers, pieces_plain fun h => absurd h hc]
  rfl

theorem refers_escape {c : Char} (hc : Unicode.isDecimalDigit c = false) (rest : List Char) :
    refers ('\\' :: c :: rest) = refers rest := by
  rw [refers, pieces_escape hc]
  rfl

/-- Digits that no backslash stands in front of refer to nothing. -/
theorem refers_digits_append {run : List Char} (hrun : ∀ c ∈ run, Unicode.isDecimalDigit c)
    (rest : List Char) : refers (run ++ rest) = refers rest := by
  induction run with
  | nil => rfl
  | cons c cs ih =>
    rw [List.forall_mem_cons] at hrun
    have hslash : c ≠ '\\' := by
      rintro rfl
      exact absurd hrun.1 (by decide)
    rw [List.cons_append, refers_plain hslash, ih hrun.2]

/-- A digit escape is a reference by its first digit, whether or not digits follow. -/
theorem refers_digits {run : List Char} (hne : run ≠ [])
    (hrun : ∀ c ∈ run, Unicode.isDecimalDigit c) (rest : List Char) :
    refers ('\\' :: (run ++ rest)) = ((Piece.digits run).isReference || refers rest) := by
  -- The piece takes the digits with which the rest begins.
  have hsplit := List.takeWhile_append_dropWhile (p := Unicode.isDecimalDigit) (l := rest)
  have hmore : ∀ c ∈ rest.takeWhile Unicode.isDecimalDigit, Unicode.isDecimalDigit c :=
    fun c hc => List.mem_takeWhile_imp hc
  generalize rest.takeWhile Unicode.isDecimalDigit = more at hsplit hmore
  have hall : ∀ c ∈ run ++ more, Unicode.isDecimalDigit c := by
    intro c hc
    exact (List.mem_append.mp hc).elim (hrun c) (hmore c)
  have hfirst : (Piece.digits (run ++ more)).isReference = (Piece.digits run).isReference := by
    obtain ⟨d, ds, rfl⟩ := List.exists_cons_of_ne_nil hne
    rfl
  rw [← hsplit, refers_digits_append hmore, ← List.append_assoc, refers,
    pieces_digits (by simp [hne]) hall (isDecimalDigit_head?_dropWhile rest), List.any_cons, hfirst]
  rfl

theorem isDecimalDigit_of_isMeta {c : Char} (h : Pattern.isMeta c) :
    Unicode.isDecimalDigit c = false := by
  have hmeta : ['\\', '.', '+', '*', '?', '(', ')', '|', '[', ']', '\x7b', '\x7d', '^', '$', '#',
      '&', '-', '~'].all (fun c => !Unicode.isDecimalDigit c) = true := by decide
  have hc := List.all_eq_true.mp hmeta c (List.contains_iff_mem.mp h)
  rwa [Bool.not_eq_true'] at hc

/-- Escaped text refers to nothing, and what stands behind it is cut as if it stood alone. -/
theorem refers_escape_append (text rest : List Char) :
    refers (Pattern.escape text ++ rest) = refers rest := by
  induction text with
  | nil => rfl
  | cons c cs ih =>
    rw [Pattern.escape, List.flatMap_cons, List.append_assoc]
    by_cases hc : Pattern.isMeta c
    · rw [if_pos hc]
      exact (refers_escape (isDecimalDigit_of_isMeta hc) _).trans ih
    · have hslash : c ≠ '\\' := by
        rintro rfl
        exact hc rfl
      rw [if_neg hc]
      exact (refers_plain hslash _).trans ih

/-! ### References of a resolved pattern -/

/-- Whether a piece is a reference without a number. -/
def Piece.isUnnumbered : Piece → Bool
  | .digits run => (Piece.digits run).isReference && (Text.readWord run).isNone
  | _ => false

/-- The text of a group refers to nothing. -/
theorem refers_groupPattern_append (line : List Char) (found : Match) (group : Nat)
    (rest : List Char) : refers (groupPattern line found group ++ rest) = refers rest := by
  unfold groupPattern
  split
  · exact refers_escape_append _ rest
  · rfl

/-- What stays in a resolved pattern are the references without a number. -/
theorem refers_flatMap_resolve {cs : List Char} {ps : List Piece} (h : Cuts cs ps)
    (line : List Char) (found : Match) :
    refers (ps.flatMap (Piece.resolve line found)) = ps.any Piece.isUnnumbered := by
  induction h with
  | nil => rfl
  | @digits run rest ps hne hrun hrest h ih =>
    rw [List.flatMap_cons, List.any_cons, Piece.isUnnumbered]
    cases hword : Text.readWord run with
    | some n =>
      rw [resolve_of_readWord hword, refers_groupPattern_append, ih]
      simp
    | none =>
      rw [resolve_of_readWord_eq_none hword]
      refine (refers_digits hne hrun _).trans ?_
      rw [ih]
      simp
  | escape hc h ih =>
    rw [List.flatMap_cons, List.any_cons]
    exact (refers_escape hc _).trans ih
  | @plain c rest ps hc h ih =>
    rw [List.flatMap_cons, List.any_cons]
    by_cases hslash : c = '\\'
    · -- A backslash alone is the end of the pattern, and of the resolved one.
      obtain rfl := hc hslash
      cases h
      rw [hslash]
      rfl
    · exact (refers_plain hslash _).trans ih

theorem isUnnumbered_eq_false_iff {cs : List Char} {ps : List Piece} (h : Cuts cs ps) :
    ps.any Piece.isUnnumbered = false ↔
      ∀ d ds, Piece.digits (d :: ds) ∈ ps → d.isDigit →
        ∃ n, Writes (d :: ds) n ∧ n ≤ Text.maxWord := by
  have hread : ∀ run, Piece.digits run ∈ ps →
      ((Text.readWord run).isNone = false ↔ ∃ n, Writes run n ∧ n ≤ Text.maxWord) := by
    intro run hmem
    have hplus := head?_ne_plus (h.isDecimalDigit_of_mem hmem)
    rw [Option.isNone_eq_false_iff, Option.isSome_iff_exists]
    exact exists_congr fun n => readWord_eq_some_iff hplus
  rw [List.any_eq_false]
  constructor
  · intro hnone d ds hmem hd
    have hunnumbered := hnone _ hmem
    have hreference : (Piece.digits (d :: ds)).isReference = true := hd
    rw [Piece.isUnnumbered, hreference, Bool.true_and, Bool.not_eq_true] at hunnumbered
    exact (hread _ hmem).mp hunnumbered
  · intro hall p hp
    cases p with
    | digits run =>
      rw [Piece.isUnnumbered, Bool.and_eq_true, not_and, Bool.not_eq_true]
      intro hreference
      obtain ⟨d, ds, heq, hd⟩ := isReference_eq_true_iff.mp hreference
      obtain rfl := Piece.digits.inj heq
      exact (hread _ hp).mpr (hall d ds hp hd)
    | escape c => exact Bool.false_ne_true
    | plain c => exact Bool.false_ne_true

/-- In a resolved pattern, nothing is left to resolve by any line and any match, exactly if in the
pattern every backslash with a run of digits, of which the first is one of `0` to `9`, has a number
of 64 bits. -/
theorem resolved_pattern_closed_iff {pattern line r : String} {found : Match}
    (h : resolve? pattern line found = some r) :
    ∃ ps, (∀ qs, Cuts pattern.toList qs ↔ qs = ps) ∧
      ((∀ line' found', resolve? r line' found' = none) ↔
        ∀ d ds, Piece.digits (d :: ds) ∈ ps → d.isDigit →
          ∃ n, Writes (d :: ds) n ∧ n ≤ Text.maxWord) := by
  have hcuts := cuts_pieces pattern.toList
  refine ⟨pieces pattern.toList, fun qs => cuts_iff, ?_⟩
  rw [← isUnnumbered_eq_false_iff hcuts, ← refers_flatMap_resolve hcuts line.toList found,
    ← toList_of_resolve?_eq_some h]
  exact ⟨fun hnone => resolve?_eq_none_iff_refers.mp (hnone line found),
    fun hrefers _ _ => resolve?_eq_none_iff_refers.mpr hrefers⟩

/-- A text that looks like a reference is put in, and a number that is too large stays. -/
theorem resolved_pattern_closed_of_reference_text :
    let found : Match := ⟨⟨0, 4⟩, [some ⟨2, 4⟩]⟩
    (resolve? "^\\1\\\\1$" "<<\\1" found = some "^\\\\1\\\\1$" ∧
      ∀ line' found', resolve? "^\\\\1\\\\1$" line' found' = none) ∧
    resolve? "\\1\\18446744073709551616" "<<\\1" found = some "\\\\1\\18446744073709551616" ∧
      ¬ ∀ line' found', resolve? "\\\\1\\18446744073709551616" line' found' = none := by
  intro found
  have hclosed : resolve? "^\\1\\\\1$" "<<\\1" found = some "^\\\\1\\\\1$" := by decide +kernel
  have hopen : resolve? "\\1\\18446744073709551616" "<<\\1" found =
      some "\\\\1\\18446744073709551616" := by decide +kernel
  refine ⟨⟨hclosed, ?_⟩, hopen, ?_⟩
  · obtain ⟨ps, hps, hiff⟩ := resolved_pattern_closed_iff hclosed
    obtain rfl := (hps _).mp (cuts_pieces _)
    refine hiff.mpr fun d ds hmem hd => ⟨1, ?_⟩
    have hpieces : pieces "^\\1\\\\1$".toList =
        [.plain '^', .digits ['1'], .escape '\\', .plain '1', .plain '$'] := by decide +kernel
    rw [hpieces] at hmem
    simp only [List.mem_cons, reduceCtorEq, Piece.digits.injEq, List.not_mem_nil, false_or,
      or_false] at hmem
    rw [hmem]
    exact ⟨⟨by simp, by simp, by decide⟩, by decide⟩
  · obtain ⟨ps, hps, hiff⟩ := resolved_pattern_closed_iff hopen
    obtain rfl := (hps _).mp (cuts_pieces _)
    rw [hiff]
    intro hall
    obtain ⟨n, ⟨-, -, hn⟩, hle⟩ :=
      hall '1' "8446744073709551616".toList (by decide +kernel) (by decide)
    have hvalue : Nat.ofDigitChars 10 ('1' :: "8446744073709551616".toList) 0 =
        Text.maxWord + 1 := by decide +kernel
    omega

end LineScopes.BackReference
