/-
Names and their texts.

* `ScopeName.ofString_toText` — without dots in its parts, a name is the one that its text
  writes; the parts of a name that a text writes have none (`mem_of_mem_parts_ofString`);
* `ScopeName.BeginsPlain` — the name is not empty and its first part does not begin with a
  hyphen, which its text alone decides (`beginsPlain_iff`);
* `ScopeName.head?_toText_ofString` — the text of a name begins with the first character that
  is no dot in the text that writes it.
-/
import LineScopes.ScopeName
import Mathlib.Data.List.Basic

namespace LineScopes

namespace ScopeName

/-- The name is not empty, and its first part does not begin with a hyphen. -/
def BeginsPlain (n : ScopeName) : Prop :=
  ∃ part rest, n.parts = part :: rest ∧ part.toList.head? ≠ some '-'

instance (n : ScopeName) : Decidable n.BeginsPlain :=
  decidable_of_iff (∃ part ∈ n.parts.head?, part.toList.head? ≠ some '-') <| by
    obtain ⟨parts, hne⟩ := n
    cases parts <;> simp [BeginsPlain]

theorem splitDots_eq_splitOn (cs : List Char) : splitDots cs = cs.splitOn '.' := by
  induction cs with
  | nil => rfl
  | cons c cs ih =>
    obtain ⟨piece, rest, hsplit⟩ := List.exists_cons_of_ne_nil (List.splitOn_ne_nil '.' cs)
    rw [splitDots, ih, List.splitOn_cons_eq_if_modifyHead, hsplit]
    simp

/-- What stands between the dots of a text is taken from it, and is no dot. -/
theorem mem_of_mem_splitDots {cs piece : List Char} (hpiece : piece ∈ splitDots cs) {c : Char}
    (hc : c ∈ piece) : c ∈ cs ∧ c ≠ '.' := by
  induction cs generalizing piece with
  | nil => simp_all [splitDots]
  | cons d cs ih =>
    obtain ⟨piece', rest, hsplit⟩ : ∃ piece' rest, splitDots cs = piece' :: rest := by
      rw [splitDots_eq_splitOn]
      exact List.exists_cons_of_ne_nil (List.splitOn_ne_nil _ _)
    rw [splitDots, hsplit] at hpiece
    rw [hsplit] at ih
    grind

theorem toList_toText (n : ScopeName) :
    n.toText.toList = ['.'].intercalate (n.parts.map String.toList) := by
  rw [toText, String.toList_intercalate]
  rfl

/-- Without dots in its parts, a name is the one that its text writes. -/
theorem ofString_toText {n : ScopeName} (h : ∀ p ∈ n.parts, '.' ∉ p.toList) :
    ofString n.toText = n := by
  obtain ⟨parts, hne⟩ := n
  cases parts with
  | nil => rfl
  | cons p ps =>
    have hpieces : splitDots (toText ⟨p :: ps, hne⟩).toList = (p :: ps).map String.toList := by
      rw [splitDots_eq_splitOn, toList_toText]
      refine List.splitOn_intercalate _ ?_ (by simp)
      simpa using h
    rw [ofString, hpieces, List.map_map]
    simp only [ofParts, mk.injEq]
    have hid : String.ofList ∘ String.toList = id := funext fun s => String.ofList_toList
    rw [hid, List.map_id, List.filter_eq_self]
    simpa using hne

theorem mem_of_mem_parts_ofString {text part : String} (hpart : part ∈ (ofString text).parts)
    {c : Char} (hc : c ∈ part.toList) : c ∈ text.toList ∧ c ≠ '.' := by
  obtain ⟨piece, hpiece, rfl⟩ := List.mem_map.mp (List.mem_of_mem_filter hpart)
  rw [String.toList_ofList] at hc
  exact mem_of_mem_splitDots hpiece hc

theorem ofString_toText_ofString (text : String) :
    ofString (ofString text).toText = ofString text :=
  ofString_toText fun _ hp hdot => (mem_of_mem_parts_ofString hp hdot).2 rfl

theorem mem_of_mem_toText {n : ScopeName} {c : Char} (hc : c ∈ n.toText.toList) :
    c = '.' ∨ ∃ p ∈ n.parts, c ∈ p.toList := by
  rw [toList_toText] at hc
  generalize n.parts = parts at hc ⊢
  induction parts with
  | nil => simp at hc
  | cons p ps ih =>
    cases ps with
    | nil => exact .inr ⟨p, by simp, by simpa using hc⟩
    | cons q qs =>
      rw [List.map_cons, List.map_cons, List.intercalate_cons_cons] at hc
      grind

/-- The text of a name begins as its first part does. -/
theorem head?_toText (n : ScopeName) :
    n.toText.toList.head? = n.parts.head?.bind fun p => p.toList.head? := by
  obtain ⟨parts, hne⟩ := n
  rw [toList_toText]
  match parts with
  | [] => rfl
  | [p] => simp
  | p :: q :: rest =>
    obtain ⟨c, cs, hp⟩ := List.exists_cons_of_ne_nil (l := p.toList) (by simpa using hne p)
    simp [hp]

theorem beginsPlain_iff {n : ScopeName} :
    n.BeginsPlain ↔ ∃ c, n.toText.toList.head? = some c ∧ c ≠ '-' := by
  obtain ⟨parts, hne⟩ := n
  rw [head?_toText]
  cases parts with
  | nil => simp [BeginsPlain]
  | cons p ps =>
    obtain ⟨c, cs, hp⟩ := List.exists_cons_of_ne_nil (l := p.toList) (by simpa using hne p)
    simp [BeginsPlain, hp]

/-- The name that a text writes begins with what is no dot in it. -/
theorem head?_toText_ofString (text : String) :
    (ofString text).toText.toList.head? = text.toList.find? (· ≠ '.') := by
  rw [head?_toText, ofString]
  generalize text.toList = cs
  induction cs with
  | nil => rfl
  | cons c cs ih =>
    obtain ⟨piece, rest, hsplit⟩ : ∃ piece rest, splitDots cs = piece :: rest := by
      rw [splitDots_eq_splitOn]
      exact List.exists_cons_of_ne_nil (List.splitOn_ne_nil _ _)
    by_cases hc : c = '.'
    · simpa [splitDots, hc, ofParts] using ih
    · simp [splitDots, hc, hsplit, ofParts]

/-- A name does not begin plainly if it is written with dots only, or with a hyphen behind some
dots in front. -/
theorem not_beginsPlain_ofString_iff {text : List Char} :
    ¬ (ofString (String.ofList text)).BeginsPlain ↔
      ∃ k rest, text = List.replicate k '.' ++ rest ∧ (rest = [] ∨ rest.head? = some '-') := by
  -- The first character that is no dot decides.
  have hhead : ¬ (ofString (String.ofList text)).BeginsPlain ↔
      ∀ c, text.find? (· ≠ '.') = some c → c = '-' := by
    rw [beginsPlain_iff, head?_toText_ofString, String.toList_ofList]
    grind
  rw [hhead]
  clear hhead
  induction text with
  | nil => simp
  | cons c cs ih =>
    by_cases hc : c = '.'
    · subst hc
      rw [List.find?_cons_of_neg (by simp)]
      refine ih.trans ⟨?_, ?_⟩
      · rintro ⟨k, rest, rfl, hrest⟩
        exact ⟨k + 1, rest, rfl, hrest⟩
      · rintro ⟨k, rest, heq, hrest⟩
        cases k with
        | zero => simp [← show _ = rest from heq] at hrest
        | succ k => exact ⟨k, rest, (List.cons.inj heq).2, hrest⟩
    · rw [List.find?_cons_of_pos (by simpa using hc)]
      constructor
      · rintro h
        exact ⟨0, c :: cs, rfl, .inr (by rw [h c rfl]; rfl)⟩
      · rintro ⟨k, rest, heq, hrest⟩
        cases k with
        | zero => simpa [← show _ = rest from heq] using hrest
        | succ k => exact absurd (List.cons.inj heq).1 hc

end ScopeName

end LineScopes
