/-
The canonical text of a selector, read again.

The tokens of the canonical text are known for every selector whose names are written with
characters of names.  Signs and separators come back as they were; only a name may not, because
the dots around its parts are lost: a text of dots says nothing any more, and a hyphen that
stands behind dots alone turns into a sign.

* `Expression.printed`, `Selector.printed` — the tokens of a canonical text (`kinds_toText`);
* `ScopeName.reread` — the name that the text of a name says, if it says one;
* `exists_derivation_printed` — if every name says one, the text is derived, and from the same
  tree exactly if every name begins plainly;
* `reread_ne_nil_of_isPrefix` — every name says one if the text begins with the tokens of a
  derivation of the same tree, as the names of that derivation are counted by those of the text;
* `parse_toText_iff` — so the canonical text is read as the same selector exactly if all names
  of it begin plainly.
-/
import LineScopes.Proofs.SelectorReading
import LineScopes.Proofs.SelectorTokens
import LineScopes.Proofs.WrittenNames
import Mathlib.Data.List.Forall2

namespace LineScopes

open Selector

/-! ### Names -/

namespace Expression

mutual

/-- The names in an expression, in order. -/
def names : Expression → List ScopeName
  | .name n => [n]
  | .not e => e.names
  | .all es => namesOf es
  | .any es => namesOf es

/-- The names in a list of expressions, in order. -/
def namesOf : List Expression → List ScopeName
  | [] => []
  | e :: es => e.names ++ namesOf es

end

theorem namesOf_eq (es : List Expression) : namesOf es = es.flatMap names := by
  induction es with
  | nil => rfl
  | cons e es ih => rw [namesOf, ih, List.flatMap_cons]

end Expression

/-- The names in a selector, in order. -/
def Selector.names (s : Selector) : List ScopeName := s.alternatives.flatMap (·.expression.names)

/-- The name that a token is. -/
def Selector.TokenKind.scopeName? : TokenKind → Option ScopeName
  | .name text => some (.ofString (String.ofList text))
  | _ => none

/-- The names that the text of a name says: one, or none if the text is made of hyphens. -/
def ScopeName.reread (n : ScopeName) : List ScopeName :=
  (runKinds n.toText.toList).filterMap TokenKind.scopeName?

namespace Selector

mutual

/-- The names of what an operand stands for are its name tokens. -/
theorem Operand.names_tree : ∀ o : Operand, o.tree.names = o.tokens.filterMap TokenKind.scopeName?
  | .name text => rfl
  | .negation o => o.names_tree
  | .group ms => by
    rw [Operand.tree, Expression.names, ms.namesOf_trees, Operand.tokens,
      List.filterMap_cons_none rfl, List.filterMap_append]
    simp [TokenKind.scopeName?]

theorem Members.namesOf_trees :
    ∀ ms : Members, Expression.namesOf ms.trees = ms.tokens.filterMap TokenKind.scopeName?
  | .last o => by
    rw [Members.trees, Expression.namesOf, Expression.namesOf, List.append_nil, o.names_tree,
      Members.tokens]
  | .more o separator ms => by
    have hseparator : separator.token.scopeName? = none := by cases separator <;> rfl
    rw [Members.trees, Expression.namesOf, o.names_tree, ms.namesOf_trees, Members.tokens,
      List.filterMap_append, List.filterMap_cons_none hseparator]

end

theorem filterMap_scopeName?_anchorTokens (a : Anchor) :
    (anchorTokens a).filterMap TokenKind.scopeName? = [] := by
  cases a <;> rfl

theorem Phrase.names_tree (p : Phrase) :
    p.tree.expression.names = p.tokens.filterMap TokenKind.scopeName? := by
  rw [tree, Expression.names, Expression.namesOf_eq, List.flatMap_map, tokens,
    List.filterMap_append, filterMap_scopeName?_anchorTokens, List.nil_append,
    List.filterMap_flatMap]
  simp only [Operand.names_tree]

/-- Names stand between separators, not in them. -/
theorem filterMap_intercalate {α β : Type} {f : α → Option β} {separator : List α}
    (h : separator.filterMap f = []) (ls : List (List α)) :
    (separator.intercalate ls).filterMap f = ls.flatMap (List.filterMap f) := by
  induction ls with
  | nil => rfl
  | cons l ls ih =>
    cases ls with
    | nil => simp
    | cons l' ls =>
      rw [List.intercalate_cons_cons, List.filterMap_append, List.filterMap_append, h, ih,
        List.append_nil]
      rfl

theorem Derivation.names_tree (d : Derivation) :
    d.tree.names = d.tokens.filterMap TokenKind.scopeName? := by
  rw [tokens, filterMap_intercalate rfl, Selector.names, tree, List.flatMap_map, List.flatMap_map]
  simp only [Phrase.names_tree]

end Selector

/-! ### Canonical text -/

namespace Expression

mutual

/-- The tokens of the canonical text of an expression. -/
def printed : Expression → List TokenKind
  | .name n => runKinds n.toText.toList
  | .not e => .minus :: e.printed
  | .all es => (printedAll es).flatten
  | .any es => .opening :: ([.bar].intercalate (printedAll es) ++ [.closing])

/-- The tokens of the canonical texts of some expressions. -/
def printedAll : List Expression → List (List TokenKind)
  | [] => []
  | e :: es => e.printed :: printedAll es

end

end Expression

/-- The tokens of the canonical text of an alternative. -/
def Alternative.printed (a : Alternative) : List TokenKind :=
  anchorTokens a.anchor ++ a.expression.printed

/-- The tokens of the canonical text of a selector. -/
def Selector.printed (s : Selector) : List TokenKind :=
  [TokenKind.comma].intercalate (s.alternatives.map Alternative.printed)

/-- The text of the name is made of characters that can stand in a name. -/
def ScopeName.IsSpelled (n : ScopeName) : Prop := ∀ c ∈ n.toText.toList, continuesName c

namespace Selector

theorem delimited_cons {c : Char} (h : continuesName c = false ∧ c ≠ ':') (rest : List Char) :
    Delimited (c :: rest) := by
  intro d hd
  exact Option.some.inj hd ▸ h

theorem nil_intercalate {α : Type} (ls : List (List α)) :
    ([] : List α).intercalate ls = ls.flatten := by
  induction ls with
  | nil => rfl
  | cons l ls ih =>
    cases ls with
    | nil => simp
    | cons l' ls =>
      rw [List.intercalate_cons_cons, List.append_nil, ih]
      rfl

mutual

/-- An expression comes back as these tokens. -/
theorem scans_toText : ∀ {e : Expression}, (∀ n ∈ e.names, n.IsSpelled) →
    Scans e.toText.toList e.printed
  | .name n, h => scans_run (h n (by simp [Expression.names]))
  | .not e, h => by
    intro rest hrest
    rw [Expression.toText, String.toList_append, Expression.printed]
    show kinds ('-' :: (e.toText.toList ++ rest)) = _
    rw [kinds_sign (by rfl : sign? '-' = some .minus), scans_toText (e := e) h rest hrest,
      List.cons_append]
  | .all es, h => by
    rw [Expression.toText, String.toList_intercalate, Expression.printed, ← nil_intercalate]
    refine Scans.intercalate (fun rest => delimited_cons (by decide) rest) (fun rest => ?_)
      (forall₂_scans_toTexts h)
    exact kinds_blank rest
  | .any es, h => by
    intro rest hrest
    have hbars : Scans (" | ".toList.intercalate ((Expression.toTexts es).map String.toList))
        ([TokenKind.bar].intercalate (Expression.printedAll es)) := by
      refine Scans.intercalate (fun rest => delimited_cons (by decide) _) (fun rest => ?_)
        (forall₂_scans_toTexts h)
      show kinds (' ' :: '|' :: ' ' :: rest) = _
      rw [kinds_blank, kinds_sign (by rfl : sign? '|' = some .bar), kinds_blank,
        List.singleton_append]
    rw [Expression.toText, String.toList_append, String.toList_append, String.toList_intercalate,
      Expression.printed, List.append_assoc, List.append_assoc]
    show kinds ('(' :: (_ ++ (')' :: rest))) = _
    rw [kinds_sign (by rfl : sign? '(' = some .opening), hbars _ (delimited_cons (by decide) _),
      kinds_sign (by rfl : sign? ')' = some .closing)]
    simp

theorem forall₂_scans_toTexts : ∀ {es : List Expression},
    (∀ n ∈ Expression.namesOf es, n.IsSpelled) →
    List.Forall₂ Scans ((Expression.toTexts es).map String.toList) (Expression.printedAll es)
  | [], _ => .nil
  | _ :: _, h => .cons (scans_toText fun n hn => h n (List.mem_append_left _ hn))
      (forall₂_scans_toTexts fun n hn => h n (List.mem_append_right _ hn))

end

theorem scans_toText_alternative {a : Alternative}
    (h : ∀ n ∈ a.expression.names, n.IsSpelled) : Scans a.toText.toList a.printed := by
  intro rest hrest
  rw [Alternative.toText, String.toList_append, List.append_assoc, kinds_anchor,
    scans_toText h rest hrest, Alternative.printed, List.append_assoc]

/-- The tokens of the canonical text of a selector. -/
theorem kinds_toText {s : Selector} (h : ∀ n ∈ s.names, n.IsSpelled) :
    kinds s.toText.toList = s.printed := by
  refine Scans.kinds_eq ?_
  rw [Selector.toText, String.toList_intercalate, Selector.printed]
  refine Scans.intercalate (fun rest => delimited_cons (by decide) _) (fun rest => ?_) ?_
  · show kinds (',' :: ' ' :: rest) = _
    rw [kinds_sign (by rfl : sign? ',' = some .comma), kinds_blank, List.singleton_append]
  · rw [List.map_map, List.forall₂_map_left_iff, List.forall₂_map_right_iff]
    refine List.forall₂_same.mpr fun a ha => scans_toText_alternative fun n hn => h n ?_
    exact List.mem_flatMap.mpr ⟨a, ha, hn⟩

/-! ### The text is derived -/

/-- Signs and a name behind them are an operand, which is that name if there are no signs. -/
theorem exists_operand_of_run {cs : List Char}
    (h : (runKinds cs).filterMap TokenKind.scopeName? ≠ []) :
    ∃ o : Operand, o.tokens = runKinds cs ∧
      ((cs.head? ≠ some '-' ∧ o = .name cs) ∨ (cs.head? = some '-' ∧ ∃ o', o = .negation o')) := by
  induction cs with
  | nil => exact absurd rfl h
  | cons c cs ih =>
    by_cases hc : c = '-'
    · rw [runKinds, if_pos hc] at h ⊢
      obtain ⟨o, ho, -⟩ := ih h
      exact ⟨.negation o, by rw [Operand.tokens, ho], .inr ⟨by rw [hc]; rfl, o, rfl⟩⟩
    · rw [runKinds, if_neg hc]
      exact ⟨.name (c :: cs), rfl, .inl ⟨by simpa using hc, rfl⟩⟩

/-- Operands in parentheses with bars between them. -/
def Members.bars (o : Operand) : List Operand → Members
  | [] => .last o
  | o' :: os => .more o .bar (bars o' os)

theorem Members.tokens_bars (o : Operand) (os : List Operand) :
    (bars o os).tokens = [TokenKind.bar].intercalate ((o :: os).map Operand.tokens) := by
  induction os generalizing o with
  | nil => simp [bars, tokens]
  | cons o' os ih =>
    rw [bars, tokens, ih, List.map_cons, List.map_cons, List.map_cons, List.intercalate_cons_cons]
    simp [Separator.token]

theorem Members.trees_bars (o : Operand) (os : List Operand) :
    (bars o os).trees = (o :: os).map Operand.tree := by
  induction os generalizing o with
  | nil => rfl
  | cons o' os ih =>
    rw [bars, trees, ih]
    rfl

/-- The name comes back from its text, perhaps with signs. -/
def Returns (n : ScopeName) : Prop := n.reread ≠ [] ∧ .ofString n.toText = n

mutual

/-- The text of an operand is one, and of the same tree if all names in it begin plainly. -/
theorem exists_operand_printed : ∀ {e : Expression}, e.IsOperand → (∀ n ∈ e.names, Returns n) →
    ∃ o : Operand, o.tokens = e.printed ∧ (o.tree = e ↔ ∀ n ∈ e.names, n.BeginsPlain)
  | .name n, _, h => by
    obtain ⟨hreread, htext⟩ := h n (by simp [Expression.names])
    obtain ⟨o, ho, hshape⟩ := exists_operand_of_run hreread
    refine ⟨o, ho, ?_⟩
    rw [Expression.names, List.forall_mem_singleton, ScopeName.beginsPlain_iff]
    rcases hshape with ⟨hhead, rfl⟩ | ⟨hhead, o', rfl⟩
    · have htree : (Operand.name n.toText.toList).tree = .name n := by
        rw [Operand.tree, String.ofList_toList, htext]
      obtain ⟨c, cs, hcs⟩ : ∃ c cs, n.toText.toList = c :: cs :=
        List.exists_cons_of_ne_nil fun hnil => hreread (by rw [ScopeName.reread, hnil]; rfl)
      rw [hcs] at hhead
      exact ⟨fun _ => ⟨c, by rw [hcs]; rfl, fun hc => hhead (by rw [hc]; rfl)⟩, fun _ => htree⟩
    · simp [Operand.tree, hhead]
  | .not e, hshape, h => by
    obtain ⟨o, ho, htree⟩ := exists_operand_printed (e := e) hshape h
    refine ⟨.negation o, by rw [Operand.tokens, ho, Expression.printed], ?_⟩
    rw [Operand.tree, Expression.not.injEq, htree, Expression.names]
  | .all _, hshape, _ => hshape.elim
  | .any es, hshape, h => by
    obtain ⟨os, hos, htrees⟩ := exists_operands_printed hshape.2 h
    cases os with
    | nil =>
      cases es with
      | nil => exact absurd rfl hshape.1
      | cons e es => cases hos
    | cons o os =>
      refine ⟨.group (.bars o os), ?_, ?_⟩
      · rw [Operand.tokens, Members.tokens_bars, hos, Expression.printed]
      · rw [Operand.tree, Members.trees_bars, Expression.any.injEq, htrees, Expression.names]

/-- So it is for the texts of some operands. -/
theorem exists_operands_printed : ∀ {es : List Expression}, Expression.AreOperands es →
    (∀ n ∈ Expression.namesOf es, Returns n) →
    ∃ os : List Operand, os.map Operand.tokens = Expression.printedAll es ∧
      (os.map Operand.tree = es ↔ ∀ n ∈ Expression.namesOf es, n.BeginsPlain)
  | [], _, _ => ⟨[], rfl, by simp [Expression.namesOf]⟩
  | e :: es, hshape, h => by
    obtain ⟨o, ho, htree⟩ := exists_operand_printed hshape.1 fun n hn =>
      h n (List.mem_append_left _ hn)
    obtain ⟨os, hos, htrees⟩ := exists_operands_printed hshape.2 fun n hn =>
      h n (List.mem_append_right _ hn)
    refine ⟨o :: os, by rw [List.map_cons, ho, hos, Expression.printedAll], ?_⟩
    rw [List.map_cons, List.cons.injEq, htree, htrees, Expression.namesOf, List.forall_mem_append]

end

theorem exists_phrase_printed {a : Alternative}
    (hshape : ∃ es, a.expression = .all es ∧ Expression.AreOperands es)
    (h : ∀ n ∈ a.expression.names, Returns n) :
    ∃ p : Phrase, p.tokens = a.printed ∧
      (p.tree = a ↔ ∀ n ∈ a.expression.names, n.BeginsPlain) := by
  obtain ⟨anchor, expression⟩ := a
  obtain ⟨es, rfl, hes⟩ := hshape
  obtain ⟨os, hos, htrees⟩ := exists_operands_printed hes h
  refine ⟨⟨anchor, os⟩, ?_, ?_⟩
  · rw [Phrase.tokens, Alternative.printed, Expression.printed, ← hos, List.flatMap]
  · rw [Phrase.tree, Alternative.mk.injEq, Expression.all.injEq, htrees, Expression.names]
    exact and_iff_right rfl

theorem exists_phrases_printed {as : List Alternative}
    (hshape : ∀ a ∈ as, ∃ es, a.expression = .all es ∧ Expression.AreOperands es)
    (h : ∀ n ∈ as.flatMap (·.expression.names), Returns n) :
    ∃ ps : List Phrase, ps.map Phrase.tokens = as.map Alternative.printed ∧
      (ps.map Phrase.tree = as ↔ ∀ n ∈ as.flatMap (·.expression.names), n.BeginsPlain) := by
  induction as with
  | nil => exact ⟨[], rfl, by simp⟩
  | cons a as ih =>
    rw [List.flatMap_cons, List.forall_mem_append] at h
    rw [List.forall_mem_cons] at hshape
    obtain ⟨p, hp, htree⟩ := exists_phrase_printed hshape.1 h.1
    obtain ⟨ps, hps, htrees⟩ := ih hshape.2 h.2
    refine ⟨p :: ps, by rw [List.map_cons, hp, hps, List.map_cons], ?_⟩
    rw [List.map_cons, List.cons.injEq, htree, htrees, List.flatMap_cons, List.forall_mem_append]

/-- If all names come back from their texts, so does the selector, perhaps with signs. -/
theorem exists_derivation_printed {s : Selector} (hne : s.alternatives ≠ [])
    (hshape : ∀ a ∈ s.alternatives, ∃ es, a.expression = .all es ∧ Expression.AreOperands es)
    (h : ∀ n ∈ s.names, Returns n) :
    ∃ d : Derivation, d.tokens = s.printed ∧ (d.tree = s ↔ ∀ n ∈ s.names, n.BeginsPlain) := by
  obtain ⟨as⟩ := s
  obtain ⟨ps, hps, htrees⟩ := exists_phrases_printed hshape h
  have hps_ne : ps ≠ [] := by
    rintro rfl
    exact hne (List.map_eq_nil_iff.mp hps.symm)
  let d : Derivation := ⟨ps.dropLast, ps.getLast hps_ne⟩
  have hphrases : d.phrases = ps := List.dropLast_append_getLast hps_ne
  refine ⟨d, ?_, ?_⟩
  · rw [Derivation.tokens, hphrases, hps, Selector.printed]
  · rw [Derivation.tree, hphrases, Selector.mk.injEq, htrees, Selector.names]

/-! ### Names are counted -/

theorem length_reread_le (n : ScopeName) : n.reread.length ≤ 1 := by
  rw [ScopeName.reread]
  induction n.toText.toList with
  | nil => exact Nat.zero_le _
  | cons c cs ih =>
    rw [runKinds]
    split
    · exact ih
    · exact Nat.le_refl 1

theorem length_flatMap_reread_le (ns : List ScopeName) :
    (ns.flatMap ScopeName.reread).length ≤ ns.length := by
  induction ns with
  | nil => exact Nat.le_refl 0
  | cons n ns ih =>
    have hn := length_reread_le n
    rw [List.flatMap_cons, List.length_append, List.length_cons]
    omega

/-- No text of a name is without a name if their texts say as many names as there are. -/
theorem reread_ne_nil_of_length_le {ns : List ScopeName}
    (h : ns.length ≤ (ns.flatMap ScopeName.reread).length) : ∀ n ∈ ns, n.reread ≠ [] := by
  induction ns with
  | nil => exact List.forall_mem_nil _
  | cons n ns ih =>
    have hn := length_reread_le n
    have hns := length_flatMap_reread_le ns
    rw [List.flatMap_cons, List.length_append, List.length_cons] at h
    refine List.forall_mem_cons.mpr ⟨fun hnil => ?_, ih (by omega)⟩
    rw [hnil, List.length_nil] at h
    omega

mutual

/-- The names that a canonical text says are those that the texts of its names say. -/
theorem names_printed : ∀ e : Expression,
    e.printed.filterMap TokenKind.scopeName? = e.names.flatMap ScopeName.reread
  | .name n => by rw [Expression.names, List.flatMap_singleton]; rfl
  | .not e => by
    rw [Expression.printed, List.filterMap_cons_none rfl, names_printed e, Expression.names]
  | .all es => by
    rw [Expression.printed, List.filterMap_flatten, ← List.flatMap, names_printedAll es,
      Expression.names]
  | .any es => by
    rw [Expression.printed, List.filterMap_cons_none rfl, List.filterMap_append,
      filterMap_intercalate rfl, names_printedAll es, Expression.names]
    exact List.append_nil _

theorem names_printedAll : ∀ es : List Expression,
    (Expression.printedAll es).flatMap (List.filterMap TokenKind.scopeName?) =
      (Expression.namesOf es).flatMap ScopeName.reread
  | [] => rfl
  | e :: es => by
    rw [Expression.printedAll, List.flatMap_cons, names_printed e, names_printedAll es,
      Expression.namesOf, List.flatMap_append]

end

theorem names_printed_selector (s : Selector) :
    s.printed.filterMap TokenKind.scopeName? = s.names.flatMap ScopeName.reread := by
  rw [Selector.printed, filterMap_intercalate rfl, Selector.names, List.flatMap_map,
    List.flatMap_assoc]
  congr 1
  funext a
  rw [Alternative.printed, List.filterMap_append, filterMap_scopeName?_anchorTokens,
    List.nil_append, names_printed]

theorem reread_ne_nil_of_beginsPlain {n : ScopeName} (h : n.BeginsPlain) : n.reread ≠ [] := by
  obtain ⟨c, hhead, hc⟩ := ScopeName.beginsPlain_iff.mp h
  obtain ⟨cs, hcs⟩ := List.head?_eq_some_iff.mp hhead
  rw [ScopeName.reread, hcs, runKinds, if_neg hc]
  exact List.cons_ne_nil _ _

/-- If the canonical text begins with a derivation of the same selector, no name is lost in it. -/
theorem reread_ne_nil_of_isPrefix {d : Derivation} (h : d.tokens <+: d.tree.printed) :
    ∀ n ∈ d.tree.names, n.reread ≠ [] := by
  refine reread_ne_nil_of_length_le ?_
  rw [← names_printed_selector, d.names_tree]
  exact (h.filterMap _).length_le

/-! ### Reading the text -/

/-- The names that are read are name tokens of the text. -/
theorem exists_token_of_mem_names {source : String} {d : Derivation}
    (h : d.tokens <+: (scan source.toList).map Token.kind) {n : ScopeName}
    (hn : n ∈ d.tree.names) :
    ∃ t ∈ scan source.toList, ∃ text, t.kind = .name text ∧ n = .ofString (String.ofList text) := by
  rw [d.names_tree] at hn
  obtain ⟨kind, hkind, hname⟩ := List.mem_filterMap.mp hn
  obtain ⟨t, ht, rfl⟩ := List.mem_map.mp (h.mem hkind)
  unfold TokenKind.scopeName? at hname
  split at hname
  · next text htext => exact ⟨t, ht, text, htext, (Option.some.inj hname).symm⟩
  · cases hname

variable {cs text : List Char} {t : Token}

theorem exists_cons_of_name (ht : t ∈ scan cs) (htext : t.kind = .name text) :
    ∃ c tail, text = c :: tail ∧ startsName c ∧ ∀ d ∈ tail, continuesName d :=
  exists_of_name_mem_kinds (List.mem_map.mpr ⟨t, ht, htext⟩)

theorem isSpelled_of_name (ht : t ∈ scan cs) (htext : t.kind = .name text) :
    (ScopeName.ofString (String.ofList text)).IsSpelled := by
  obtain ⟨c, tail, rfl, hc, htail⟩ := exists_cons_of_name ht htext
  have hall : ∀ d ∈ c :: tail, continuesName d :=
    List.forall_mem_cons.mpr ⟨by rw [continuesName, ← startsName, hc, Bool.true_or], htail⟩
  intro d hd
  rcases ScopeName.mem_of_mem_toText hd with rfl | ⟨part, hpart, hd⟩
  · decide
  · have hmem := (ScopeName.mem_of_mem_parts_ofString hpart hd).1
    rw [String.toList_ofList] at hmem
    exact hall d hmem

/-- No name is written without a character or with a hyphen in front, so that one that does not
begin plainly is written with a dot. -/
theorem exists_dots_of_name (ht : t ∈ scan cs) (htext : t.kind = .name text)
    (hplain : ¬ (ScopeName.ofString (String.ofList text)).BeginsPlain) :
    ∃ k rest, text = List.replicate (k + 1) '.' ++ rest ∧
      (rest = [] ∨ rest.head? = some '-') := by
  obtain ⟨k, rest, rfl, hrest⟩ := ScopeName.not_beginsPlain_ofString_iff.mp hplain
  cases k with
  | succ k => exact ⟨k, rest, rfl, hrest⟩
  | zero =>
    obtain ⟨c, tail, heq, hc, -⟩ := exists_cons_of_name ht htext
    obtain rfl : rest = c :: tail := heq
    rcases hrest with hrest | hrest
    · cases hrest
    · obtain rfl : c = '-' := Option.some.inj hrest
      exact absurd hc (by decide)

section Reread

variable {d : Derivation}
  (hnames : ∀ n ∈ d.tree.names, n.IsSpelled ∧ .ofString n.toText = n)
include hnames

theorem kinds_toText_tree : (scan d.tree.toText.toList).map Token.kind = d.tree.printed :=
  kinds_toText fun n hn => (hnames n hn).1

/-- If no name is lost in the canonical text, all of it is derived. -/
theorem exists_isLongest_toText (hreread : ∀ n ∈ d.tree.names, n.reread ≠ []) :
    ∃ d' : Derivation, d'.tokens = (scan d.tree.toText.toList).map Token.kind ∧
      d'.IsLongest ((scan d.tree.toText.toList).map Token.kind) ∧
      (d'.tree = d.tree ↔ ∀ n ∈ d.tree.names, n.BeginsPlain) := by
  obtain ⟨d', htokens, htree⟩ := exists_derivation_printed d.alternatives_tree_ne_nil
    (fun a ha => d.exists_areOperands_of_mem ha) fun n hn => ⟨hreread n hn, (hnames n hn).2⟩
  rw [kinds_toText_tree hnames, ← htokens]
  exact ⟨d', rfl, d'.isLongest_tokens, htree⟩

theorem parse_toText_of_beginsPlain (hplain : ∀ n ∈ d.tree.names, n.BeginsPlain) :
    parse d.tree.toText = .ok ⟨d.tree, none⟩ := by
  obtain ⟨d', htokens, hlongest, htree⟩ := exists_isLongest_toText hnames fun n hn =>
    reread_ne_nil_of_beginsPlain (hplain n hn)
  have hnone : (scan d.tree.toText.toList)[d'.tokens.length]? = none := by
    rw [htokens, List.length_map]
    exact List.getElem?_eq_none (Nat.le_refl _)
  rw [hlongest.parse_eq_ok_iff, hnone, htree.mpr hplain]
  exact ⟨fun t ht => (Option.some_ne_none t ht.symm).elim, rfl⟩

theorem beginsPlain_of_parse_toText {q : Parsed} (hq : parse d.tree.toText = .ok q)
    (hsame : q.selector = d.tree) : ∀ n ∈ d.tree.names, n.BeginsPlain := by
  obtain ⟨d', hd', -⟩ :=
    Derivation.existsUnique_isLongest ((scan d.tree.toText.toList).map Token.kind)
  obtain ⟨-, rfl⟩ := hd'.parse_eq_ok_iff.mp hq
  have hsame : d'.tree = d.tree := hsame
  -- The names of the selector are among the tokens that were read again, so that none is lost.
  have hreread : ∀ n ∈ d'.tree.names, n.reread ≠ [] := by
    refine reread_ne_nil_of_isPrefix ?_
    rw [hsame, ← kinds_toText_tree hnames]
    exact hd'.1
  rw [hsame] at hreread
  obtain ⟨d'', -, hlongest, htree⟩ := exists_isLongest_toText hnames hreread
  rw [← htree, hlongest.eq hd', hsame]

end Reread

/-- The canonical text of a selector that was read is read as that selector again if and only if
each of its names has a first part, and that part does not begin with a hyphen.  The other names are
those that are written with dots only, or with a hyphen behind the dots in front. -/
theorem parse_toText_iff (source : String) {p : Parsed} (h : parse source = .ok p) :
    ((∃ q, parse p.selector.toText = .ok q ∧ q.selector = p.selector) ↔
      ∀ n ∈ p.selector.names, n.BeginsPlain) ∧
    ∀ n ∈ p.selector.names, ¬ n.BeginsPlain ↔
      ∃ t ∈ scan source.toList, ∃ k rest, t.kind = .name (List.replicate (k + 1) '.' ++ rest) ∧
        n = .ofString (String.ofList (List.replicate (k + 1) '.' ++ rest)) ∧
        (rest = [] ∨ rest.head? = some '-') := by
  obtain ⟨d, hd, -⟩ := Derivation.existsUnique_isLongest ((scan source.toList).map Token.kind)
  obtain ⟨-, rfl⟩ := hd.parse_eq_ok_iff.mp h
  have hnames : ∀ n ∈ d.tree.names, n.IsSpelled ∧ .ofString n.toText = n := fun n hn => by
    obtain ⟨t, ht, text, htext, rfl⟩ := exists_token_of_mem_names hd.1 hn
    exact ⟨isSpelled_of_name ht htext, ScopeName.ofString_toText_ofString _⟩
  refine ⟨⟨?_, fun hplain => ?_⟩, fun n hn => ⟨fun hplain => ?_, ?_⟩⟩
  · rintro ⟨q, hq, hsame⟩
    exact beginsPlain_of_parse_toText hnames hq hsame
  · exact ⟨_, parse_toText_of_beginsPlain hnames hplain, rfl⟩
  · obtain ⟨t, ht, text, htext, rfl⟩ := exists_token_of_mem_names hd.1 hn
    obtain ⟨k, rest, rfl, hrest⟩ := exists_dots_of_name ht htext hplain
    exact ⟨t, ht, k, rest, htext, rfl, hrest⟩
  · rintro ⟨t, -, k, rest, -, rfl, hrest⟩
    exact ScopeName.not_beginsPlain_ofString_iff.mpr ⟨k + 1, rest, rfl, hrest⟩

/-- A hyphen behind a dot comes back as a sign, and other names as they are. -/
theorem parse_toText_of_dotted_names :
    (∃ p, parse "..a (b.-c, d), R:-(e)" = .ok p ∧ p.selector.toText = "a (b.-c | d), R:-(e)" ∧
      ∃ q, parse p.selector.toText = .ok q ∧ q.selector = p.selector) ∧
    ∃ p, parse "a .-b" = .ok p ∧ p.selector.toText = "a -b" ∧
      ¬ ∃ q, parse p.selector.toText = .ok q ∧ q.selector = p.selector := by
  have hplain : parse "..a (b.-c, d), R:-(e)" = .ok ⟨⟨[⟨.free, .all [.name (.ofString "a"),
      .any [.name (.ofString "b.-c"), .name (.ofString "d")]]⟩,
      ⟨.right, .all [.not (.any [.name (.ofString "e")])]⟩]⟩, none⟩ := by decide +kernel
  have hhidden : parse "a .-b" =
      .ok ⟨⟨[⟨.free, .all [.name (.ofString "a"), .name (.ofString "-b")]⟩]⟩, none⟩ := by
    decide +kernel
  refine ⟨⟨_, hplain, by decide +kernel, (parse_toText_iff _ hplain).1.mpr (by decide +kernel)⟩,
    _, hhidden, by decide +kernel, fun h => ?_⟩
  exact absurd ((parse_toText_iff _ hhidden).1.mp h) (by decide +kernel)

end Selector

end LineScopes
