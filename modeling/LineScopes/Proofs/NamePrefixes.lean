/-
Names that begin other names.

A name accepts the names that have its parts as their first parts.  Where names are given by
texts, this can be read off the texts, as long as it is minded where the parts end:
`string` does not accept `strings`.

* `ScopeName.isPrefixOf_refl`, `isPrefixOf_trans` and `isPrefixOf_antisymm` — acceptance is an
  order of all names, those with dots inside their parts included;
* `ScopeName.parts_ofString_append` — around a dot, a text falls into two names;
* `names_accept_up_to_dots` — a name that a text writes accepts another one if their texts are
  equal, or go on with a dot where the first one ends.
-/
import LineScopes.Proofs.WrittenNames
import LineScopes.Selector.Matching

namespace LineScopes

namespace ScopeName

/-! ### The order of names -/

theorem isPrefixOf_iff {m n : ScopeName} : m.isPrefixOf n = true ↔ m.parts <+: n.parts :=
  List.isPrefixOf_iff_prefix

theorem isPrefixOf_refl (n : ScopeName) : n.isPrefixOf n = true :=
  isPrefixOf_iff.mpr List.prefix_rfl

theorem isPrefixOf_trans {l m n : ScopeName} (hlm : l.isPrefixOf m = true)
    (hmn : m.isPrefixOf n = true) : l.isPrefixOf n = true :=
  isPrefixOf_iff.mpr ((isPrefixOf_iff.mp hlm).trans (isPrefixOf_iff.mp hmn))

theorem isPrefixOf_antisymm {m n : ScopeName} (hmn : m.isPrefixOf n = true)
    (hnm : n.isPrefixOf m = true) : m = n := by
  have hle := (isPrefixOf_iff.mp hmn).length_le
  have hge := (isPrefixOf_iff.mp hnm).length_le
  have hparts : m.parts = n.parts := (isPrefixOf_iff.mp hmn).eq_of_length (by omega)
  cases m
  cases n
  simpa using hparts

/-! ### Names around a dot -/

/-- Around a dot, a text falls into the names that its two sides write. -/
theorem parts_ofString_append (front back : String) :
    (ofString (front ++ "." ++ back)).parts = (ofString front).parts ++ (ofString back).parts := by
  have hsplit : splitDots (front ++ "." ++ back).toList =
      splitDots front.toList ++ splitDots back.toList := by
    have hdot : (front ++ "." ++ back).toList = front.toList ++ '.' :: back.toList := by
      simp
    simp only [splitDots_eq_splitOn, hdot]
    exact List.splitOnP_append_cons _ _ (by decide)
  simp only [ofString, ofParts, hsplit, List.map_append, List.filter_append]

/-- The text of a name is that of its first parts and that of the others, with a dot between
them. -/
theorem toText_eq_append {m n : ScopeName} {rest : List String} (hparts : m.parts ++ rest = n.parts)
    (hm : m.parts ≠ []) (hrest : rest ≠ []) :
    n.toText = m.toText ++ "." ++ ".".intercalate rest := by
  rw [toText, toText, ← hparts, String.intercalate_append_of_ne_nil hm hrest]

/-- A name that goes on behind another one has a text that does so behind a dot. -/
theorem text_of_isPrefixOf {m n : ScopeName} (h : m.isPrefixOf n = true) :
    m.toText = "" ∨ m.toText = n.toText ∨ ∃ rest, n.toText = m.toText ++ "." ++ rest := by
  obtain ⟨rest, hparts⟩ := isPrefixOf_iff.mp h
  by_cases hm : m.parts = []
  · left
    rw [toText, hm, String.intercalate_nil]
  · right
    by_cases hrest : rest = []
    · left
      rw [hrest, List.append_nil] at hparts
      rw [toText, toText, hparts]
    · right
      exact ⟨_, toText_eq_append hparts hm hrest⟩

/-- A text that goes on behind a dot writes a name that begins with what is in front of it. -/
theorem isPrefixOf_ofString_append (front back : String) :
    (ofString front).isPrefixOf (ofString (front ++ "." ++ back)) = true := by
  rw [isPrefixOf_iff, parts_ofString_append]
  exact List.prefix_append _ _

/-- Of names that texts write, the one is the beginning of the other if its text is that of the
other up to a dot or to the end. -/
theorem isPrefixOf_ofString_iff (text text' : String) :
    (ofString text).isPrefixOf (ofString text') = true ↔
      (ofString text).toText = "" ∨ (ofString text).toText = (ofString text').toText ∨
        ∃ rest, (ofString text').toText = (ofString text).toText ++ "." ++ rest := by
  refine ⟨text_of_isPrefixOf, fun h => ?_⟩
  -- Both names are written by their own texts as well, in which no dot is stray.
  have hfront := ofString_toText_ofString text
  have hwhole := ofString_toText_ofString text'
  rcases h with hempty | heq | ⟨rest, hrest⟩
  · rw [← hfront, hempty]
    rfl
  · rw [← hfront, heq, hwhole]
    exact isPrefixOf_refl _
  · rw [← hfront, ← hwhole, hrest]
    exact isPrefixOf_ofString_append _ rest

end ScopeName

/-- A name that a text writes accepts another such name exactly if its own text is empty, or that
of the other one, or that of the other one up to some dot; and a name is written by its own text.
Of all names, also those with dots inside their parts, each accepts itself, what is accepted by a
name that is accepted is accepted, and different names do not accept each other. -/
theorem names_accept_up_to_dots :
    (∀ text text' : String,
      Matcher.general (.ofString text) (.ofString text') = true ↔
        (ScopeName.ofString text).toText = "" ∨
        (ScopeName.ofString text).toText = (ScopeName.ofString text').toText ∨
        ∃ rest, (ScopeName.ofString text').toText =
          (ScopeName.ofString text).toText ++ "." ++ rest) ∧
    (∀ text : String, ScopeName.ofString (ScopeName.ofString text).toText = .ofString text) ∧
    (∀ n : ScopeName, Matcher.general n n = true) ∧
    (∀ l m n : ScopeName, Matcher.general l m = true → Matcher.general m n = true →
      Matcher.general l n = true) ∧
    ∀ m n : ScopeName, Matcher.general m n = true → Matcher.general n m = true → m = n :=
  ⟨ScopeName.isPrefixOf_ofString_iff, ScopeName.ofString_toText_ofString,
    ScopeName.isPrefixOf_refl, fun _ _ _ => ScopeName.isPrefixOf_trans,
    fun _ _ => ScopeName.isPrefixOf_antisymm⟩

/-- Dots in front, in a row and at the end do not count, and a part that begins as another one does
is no longer form of it.  A dot inside a part is not one between parts. -/
theorem names_accept_up_to_dots_of_quoted_strings :
    let quoted := ScopeName.ofString ".string..quoted"
    let double := ScopeName.ofString "string.quoted.double."
    let onePart := ScopeName.ofParts ["string.quoted"]
    quoted.toText = "string.quoted" ∧ double.toText = "string.quoted.double" ∧
      Matcher.general quoted double = true ∧
      Matcher.general quoted (.ofString "string.quotedx.double") = false ∧
      Matcher.general (.ofString "string") double = true ∧
      onePart.toText = quoted.toText ∧ Matcher.general onePart quoted = false ∧
      onePart = .ofParts ["", "string.quoted"] := by
  intro quoted double onePart
  obtain ⟨hiff, -, -, htrans, hantisymm⟩ := names_accept_up_to_dots
  have hdouble : Matcher.general quoted double = true :=
    (hiff _ _).mpr (.inr (.inr ⟨"double", by decide +kernel⟩))
  have hquoted : Matcher.general (.ofString "string") quoted = true :=
    (hiff _ _).mpr (.inr (.inr ⟨"quoted", by decide +kernel⟩))
  exact ⟨by decide +kernel, by decide +kernel, hdouble, by decide +kernel,
    htrans _ _ _ hquoted hdouble, by decide +kernel, by decide +kernel,
    hantisymm _ _ (by decide +kernel) (by decide +kernel)⟩

end LineScopes
