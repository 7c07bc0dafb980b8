/-
What a span holds of a text.

Bytes are counted over characters, so a span that begins and ends between two characters
holds the characters there.

* `exists_append_of_isValid` — a position between two characters divides the text;
* `exists_between` — a character that begins in the middle part of a text stands there;
* `Span.chars?_append` — a span around the middle part of a text holds that part;
* `Span.chars?_eq_some_iff` — a span holds nothing else.
-/
import LineScopes.Text.Span

namespace LineScopes

namespace Text

/-! ### Sizes -/

/-- The bytes of a text are those of its characters. -/
theorem byteSize_toList (line : String) : byteSize line.toList = line.utf8ByteSize := by
  have hlist : ∀ cs : List Char, (String.ofList cs).utf8ByteSize = byteSize cs := by
    intro cs
    induction cs with
    | nil => rfl
    | cons c cs ih =>
      rw [String.ofList_cons, String.utf8ByteSize_append, String.utf8ByteSize_singleton, ih,
        byteSize_cons]
  rw [← hlist, String.ofList_toList]

theorem eq_nil_of_byteSize_eq_zero {cs : List Char} (h : byteSize cs = 0) : cs = [] := by
  cases cs with
  | nil => rfl
  | cons c cs =>
    have hpos := c.utf8Size_pos
    rw [byteSize_cons] at h
    omega

/-! ### Cuts -/

/-- A cut behind the first character. -/
theorem dropBytes_utf8Size_add (c : Char) (n : Nat) (cs : List Char) :
    dropBytes (c.utf8Size + n) (c :: cs) = dropBytes n cs := by
  obtain ⟨k, hk⟩ : ∃ k, c.utf8Size + n = k + 1 :=
    Nat.exists_eq_succ_of_ne_zero (by have := c.utf8Size_pos; omega)
  rw [hk, dropBytes, if_pos (by omega), ← hk, Nat.add_sub_cancel_left]

theorem takeBytes_utf8Size_add (c : Char) (n : Nat) (cs : List Char) :
    takeBytes (c.utf8Size + n) (c :: cs) = (takeBytes n cs).map (c :: ·) := by
  obtain ⟨k, hk⟩ : ∃ k, c.utf8Size + n = k + 1 :=
    Nat.exists_eq_succ_of_ne_zero (by have := c.utf8Size_pos; omega)
  rw [hk, takeBytes, if_pos (by omega), ← hk, Nat.add_sub_cancel_left]

theorem dropBytes_append (pre post : List Char) :
    dropBytes (byteSize pre) (pre ++ post) = some post := by
  induction pre with
  | nil => simp [dropBytes]
  | cons c cs ih => rw [byteSize_cons, List.cons_append, dropBytes_utf8Size_add, ih]

theorem takeBytes_append (pre post : List Char) :
    takeBytes (byteSize pre) (pre ++ post) = some pre := by
  induction pre with
  | nil => simp [takeBytes]
  | cons c cs ih =>
    rw [byteSize_cons, List.cons_append, takeBytes_utf8Size_add, ih, Option.map_some]

theorem exists_append_of_dropBytes {n : Nat} {cs post : List Char} (h : dropBytes n cs = some post) :
    ∃ pre, cs = pre ++ post ∧ byteSize pre = n := by
  fun_induction dropBytes n cs with
  | case1 cs => exact ⟨[], Option.some.inj h, rfl⟩
  | case2 => cases h
  | case3 n c cs hc ih =>
    obtain ⟨pre, rfl, hpre⟩ := ih h
    refine ⟨c :: pre, rfl, ?_⟩
    rw [byteSize_cons]
    omega
  | case4 => cases h

theorem exists_append_of_takeBytes {n : Nat} {cs pre : List Char} (h : takeBytes n cs = some pre) :
    ∃ post, cs = pre ++ post ∧ byteSize pre = n := by
  fun_induction takeBytes n cs generalizing pre with
  | case1 cs =>
    obtain rfl := Option.some.inj h
    exact ⟨cs, rfl, rfl⟩
  | case2 => cases h
  | case3 n c cs hc ih =>
    obtain ⟨pre, hpre, rfl⟩ := Option.map_eq_some_iff.mp h
    obtain ⟨post, rfl, hsize⟩ := ih hpre
    refine ⟨post, rfl, ?_⟩
    rw [byteSize_cons]
    omega
  | case4 => cases h

/-- A position between two characters, or at an end, divides the text. -/
theorem exists_append_of_isValid {line : String} {n : Nat}
    (h : (⟨n⟩ : String.Pos.Raw).IsValid line) :
    ∃ pre post, line.toList = pre ++ post ∧ byteSize pre = n := by
  obtain ⟨pre, post, hline, hn⟩ := String.Pos.Raw.isValid_iff_exists_append.mp h
  refine ⟨pre.toList, post.toList, ?_, ?_⟩
  · rw [hline, String.toList_append]
  · rw [byteSize_toList]
    exact (congrArg String.Pos.Raw.byteIdx hn).symm

/-- Of two divisions of a text, the one with more bytes in front goes on where the other is. -/
theorem exists_middle {pre post pre' post' : List Char} (h : pre ++ post = pre' ++ post')
    (hle : byteSize pre ≤ byteSize pre') : ∃ mid, pre' = pre ++ mid ∧ post = mid ++ post' := by
  rcases List.append_eq_append_iff.mp h with ⟨mid, hpre, hpost⟩ | ⟨mid, hpre, hpost⟩
  · exact ⟨mid, hpre, hpost⟩
  · -- The part in front is not longer, so that both divisions are the same.
    have hmid : mid = [] := by
      apply eq_nil_of_byteSize_eq_zero
      rw [hpre, byteSize_append] at hle
      omega
    subst hmid
    refine ⟨[], ?_, ?_⟩
    · rw [hpre, List.append_nil, List.append_nil]
    · rw [hpost, List.nil_append, List.nil_append]

/-- A text has one division at a byte. -/
theorem append_inj_of_byteSize {pre post pre' post' : List Char} (h : pre ++ post = pre' ++ post')
    (hsize : byteSize pre = byteSize pre') : pre = pre' ∧ post = post' := by
  obtain ⟨mid, rfl, rfl⟩ := exists_middle h (Nat.le_of_eq hsize)
  have hmid : mid = [] := by
    apply eq_nil_of_byteSize_eq_zero
    rw [byteSize_append] at hsize
    omega
  rw [hmid, List.append_nil, List.nil_append]
  exact ⟨rfl, rfl⟩

/-- A character that begins behind the first part of a text, and before the last one, stands between
the two. -/
theorem exists_between {pre mid post front back : List Char} {c : Char}
    (h : pre ++ (mid ++ post) = front ++ c :: back) (hstart : byteSize pre ≤ byteSize front)
    (hstop : byteSize front < byteSize (pre ++ mid)) :
    ∃ before after, front = pre ++ before ∧ mid = before ++ c :: after ∧ back = after ++ post := by
  obtain ⟨before, rfl, hrest⟩ := exists_middle h hstart
  rw [byteSize_append, byteSize_append] at hstop
  obtain ⟨rest, hmid, hback⟩ := exists_middle hrest.symm (by omega)
  cases rest with
  | nil =>
    rw [hmid, List.append_nil] at hstop
    omega
  | cons d after =>
    obtain ⟨rfl, rfl⟩ := List.cons.inj hback
    exact ⟨before, after, rfl, hmid, rfl⟩

end Text

/-- Whether the byte with the number is one of the span. -/
def Span.contains (s : Span) (b : Nat) : Bool := s.start ≤ b && b < s.stop

theorem Span.contains_iff {s : Span} {b : Nat} :
    s.contains b = true ↔ s.start ≤ b ∧ b < s.stop := by
  simp [Span.contains]

/-- A span around the middle part of a text holds that part. -/
theorem Span.chars?_append (pre mid post : List Char) :
    (Span.mk (Text.byteSize pre) (Text.byteSize (pre ++ mid))).chars? (pre ++ (mid ++ post)) =
      some mid := by
  have hle : Text.byteSize pre ≤ Text.byteSize (pre ++ mid) := by
    rw [Text.byteSize_append]
    omega
  have hsize : Text.byteSize (pre ++ mid) - Text.byteSize pre = Text.byteSize mid := by
    rw [Text.byteSize_append, Nat.add_sub_cancel_left]
  simp only [Span.chars?]
  rw [if_pos hle, hsize, Text.dropBytes_append, Option.bind_some, Text.takeBytes_append]

/-- A span holds a text exactly if it begins and ends where that text does. -/
theorem Span.chars?_eq_some_iff {s : Span} {cs text : List Char} :
    s.chars? cs = some text ↔ ∃ pre post, cs = pre ++ (text ++ post) ∧
      s = ⟨Text.byteSize pre, Text.byteSize (pre ++ text)⟩ := by
  constructor
  · intro h
    unfold Span.chars? at h
    split at h
    · next hle =>
      obtain ⟨rest, hdrop, htake⟩ := Option.bind_eq_some_iff.mp h
      obtain ⟨pre, rfl, hpre⟩ := Text.exists_append_of_dropBytes hdrop
      obtain ⟨post, rfl, htext⟩ := Text.exists_append_of_takeBytes htake
      refine ⟨pre, post, rfl, ?_⟩
      have hstop : Text.byteSize (pre ++ text) = s.stop := by
        rw [Text.byteSize_append]
        omega
      rw [hpre, hstop]
    · cases h
  · rintro ⟨pre, post, rfl, rfl⟩
    exact Span.chars?_append pre text post

end LineScopes
