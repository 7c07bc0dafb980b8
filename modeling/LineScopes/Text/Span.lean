/-
Spans of a text, in bytes of its UTF-8 form.

* `dropBytes`, `takeBytes` — a text less, or only, its first bytes, as long as the
  cut falls between two characters;
* `Span.text?` — what a span holds of a text.

Design notes: a span comes from outside (a match, a capture) and promises
nothing: it may be reversed, leave the text, or end inside a character.  `text?`
answers `none` for all of these.
-/

namespace LineScopes

/-- A stretch of bytes from `start` up to `stop`. -/
structure Span where
  start : Nat
  stop : Nat
deriving DecidableEq, Repr, Inhabited

namespace Text

/-- The number of bytes of the characters. -/
def byteSize : List Char → Nat
  | [] => 0
  | c :: cs => c.utf8Size + byteSize cs

@[simp] theorem byteSize_nil : byteSize [] = 0 := rfl

@[simp] theorem byteSize_cons (c : Char) (cs : List Char) :
    byteSize (c :: cs) = c.utf8Size + byteSize cs := rfl

@[simp] theorem byteSize_append (as bs : List Char) :
    byteSize (as ++ bs) = byteSize as + byteSize bs := by
  induction as with
  | nil => simp
  | cons c cs ih => rw [List.cons_append, byteSize_cons, byteSize_cons, ih, Nat.add_assoc]

/-- The characters after the first `n` bytes; `none` where that cut falls inside a character or
past the end. -/
def dropBytes (n : Nat) (cs : List Char) : Option (List Char) :=
  match n, cs with
  | 0, cs => some cs
  | _ + 1, [] => none
  | n + 1, c :: cs => if c.utf8Size ≤ n + 1 then dropBytes (n + 1 - c.utf8Size) cs else none

/-- The characters of the first `n` bytes; `none` where that cut falls inside a character or past
the end. -/
def takeBytes (n : Nat) (cs : List Char) : Option (List Char) :=
  match n, cs with
  | 0, _ => some []
  | _ + 1, [] => none
  | n + 1, c :: cs =>
    if c.utf8Size ≤ n + 1 then (takeBytes (n + 1 - c.utf8Size) cs).map (c :: ·) else none

end Text

namespace Span

/-- Whether the span holds no byte. -/
def isEmpty (s : Span) : Bool := s.stop ≤ s.start

/-- The part of the span that lies in `outer`. -/
def clip (s outer : Span) : Span := ⟨max s.start outer.start, min s.stop outer.stop⟩

/-- Whether `inner` lies in the span. -/
def covers (s inner : Span) : Bool := s.start ≤ inner.start && inner.stop ≤ s.stop

/-- The characters of `text` that the span holds. -/
def chars? (s : Span) (text : List Char) : Option (List Char) :=
  if s.start ≤ s.stop then
    (Text.dropBytes s.start text).bind (Text.takeBytes (s.stop - s.start))
  else none

/-- The text that the span holds of `line`. -/
def text? (s : Span) (line : String) : Option String :=
  (s.chars? line.toList).map String.ofList

/-- The span as two offsets: `2..5`. -/
def toText (s : Span) : String := toString s.start ++ ".." ++ toString s.stop

end Span

end LineScopes
