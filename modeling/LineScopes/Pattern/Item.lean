/-
The items of a pattern.

The text of a pattern is a row of items: characters and classes, conditions, signs of
repetition, parentheses, bars and flags.  What the flags in force make of an item is
settled when it is read.

* `items` — the items of a text.

Design notes: `itemsFrom` takes one character at a time; an item of several characters
tells it how many of the next ones to pass over.
-/
import LineScopes.Pattern.CharClass
import LineScopes.Pattern.Combine
import LineScopes.Text.Decimal

namespace LineScopes.Pattern

/-- An item of a pattern. -/
inductive Item where
  /-- A pattern of its own: a character of a set, or a condition on the place. -/
  | atom (p : Pattern)
  /-- Repeats the item before. -/
  | rep (min : Nat) (max : Option Nat) (greedy : Bool)
  /-- Opens a group, numbered or not. -/
  | opening (group : Option Nat)
  | closing
  | bar
  /-- Sets flags for the rest of the group. -/
  | flags

/-- What is known where an item begins: the flags in force, those in force outside of the groups
that are open, the number of groups so far, and their names. -/
structure Scope where
  flags : Flags
  outer : List Flags
  groups : Nat
  names : List (List Char)

/-! ### Groups -/

/-- Opens a numbered group. -/
def Scope.openGroup (s : Scope) : Item × Scope :=
  (.opening (some (s.groups + 1)),
    { s with groups := s.groups + 1, outer := s.flags :: s.outer })

/-- Whether a group may have the name. -/
def isGroupName : List Char → Bool
  | [] => false
  | c :: cs =>
    (c == '_' || Unicode.isAlphabetic c) &&
      cs.all fun c => ['_', '.', '[', ']'].contains c || Unicode.isAlphanumeric c

/-- Reads the name of a group behind its opening bracket. -/
def readNamedGroup (s : Scope) (cs : List Char) :
    Except Malformed (Item × Scope × List Char) := do
  let name := cs.takeWhile (· != '>')
  match cs.dropWhile (· != '>') with
  | _ :: rest =>
    if !isGroupName name then .error .badGroupName
    else if s.names.contains name then .error .repeatedGroupName
    else
      let (item, s) := s.openGroup
      .ok (item, { s with names := name :: s.names }, rest)
  | [] => .error .unexpectedEnd

/-- Reads flags behind a question mark: for a group of their own, or for the rest of this one. -/
def readFlags (s : Scope) (cs : List Char) : Except Malformed (Item × Scope × List Char) := do
  let ends (c : Char) : Bool := c == ':' || c == ')'
  let letters := cs.takeWhile fun c => !ends c
  let sound := letters.eraseDups.length = letters.length ∧ letters.getLast? ≠ some '-'
  match cs.dropWhile fun c => !ends c, s.flags.setAll? true letters with
  | [], _ => .error .unexpectedEnd
  | _, none => .error .badFlags
  | c :: rest, some flags =>
    if ¬ sound then .error .badFlags
    else if c = ':' then
      .ok (.opening none, { s with flags := flags, outer := s.flags :: s.outer }, rest)
    else if letters.isEmpty then .error .nothingToRepeat
    else .ok (.flags, { s with flags := flags }, rest)

/-- Reads what follows an opening parenthesis. -/
def readGroup (s : Scope) (cs : List Char) : Except Malformed (Item × Scope × List Char) :=
  match dropLayout s.flags.laidOut cs with
  | '?' :: '=' :: _ | '?' :: '!' :: _ | '?' :: '<' :: '=' :: _ | '?' :: '<' :: '!' :: _ =>
    .error .lookAround
  | '?' :: 'P' :: '<' :: cs | '?' :: '<' :: cs => readNamedGroup s cs
  | '?' :: cs => readFlags s cs
  | cs => let (item, s) := s.openGroup; .ok (item, s, cs)

/-! ### Repetitions -/

/-- Reads a question mark, which turns the greed of a repetition round. -/
def readGreed (f : Flags) (cs : List Char) : Bool × List Char :=
  match cs with
  | '?' :: rest => (f.swapGreed, rest)
  | cs => (!f.swapGreed, cs)

/-- Reads a number of repetitions, white space around it allowed. -/
def readCount (laidOut : Bool) (cs : List Char) : Option Nat × List Char :=
  let (digits, rest) := spanDigits laidOut false (cs.dropWhile Unicode.isBlank)
  ((Text.readDigits digits).filter (· < UInt32.size),
    dropLayout laidOut (rest.dropWhile Unicode.isBlank))

/-- Reads the numbers of a repetition behind its opening brace. -/
def readCounts (f : Flags) (cs : List Char) : Except Malformed (Item × List Char) := do
  let finish (min : Option Nat) (max : Option (Option Nat)) (cs : List Char) :
      Except Malformed (Item × List Char) :=
    match min, max, cs with
    | some min, some max, '\x7d' :: rest =>
      if max.all (min ≤ ·) then
        let (greedy, rest) := readGreed f (dropLayout f.laidOut rest)
        .ok (.rep min max greedy, rest)
      else .error .badCount
    | _, _, _ => .error .badCount
  let (min, cs) := readCount f.laidOut (dropLayout f.laidOut cs)
  match cs with
  | ',' :: cs =>
    let cs := dropLayout f.laidOut cs
    match cs with
    | '\x7d' :: _ => finish min (some none) cs
    | _ =>
      let (max, cs) := readCount f.laidOut cs
      finish min (max.map some) cs
  | cs => finish min (min.map some) cs

/-! ### Items -/

/-- The pattern of a set that was written with the flags. -/
def Flags.oneIn (f : Flags) (s : CodeSet) : Pattern := Pattern.oneIn s (!f.unicode)

/-- The set of a character that stands for itself. -/
def literalSet (f : Flags) (c : Char) (byte : Bool) : Except Malformed CodeSet :=
  if !f.unicode && byte && 0x80 ≤ c.toNat then .error .notText
  else .ok (f.fold (.single c))

/-- The set of the dot. -/
def dotSet (f : Flags) : Except Malformed CodeSet :=
  if !f.unicode then .error .notText
  else if f.dotAll then .ok .all
  else if f.crlf then .ok ((CodeSet.ofRanges [(0x0A, 0x0A), (0x0D, 0x0D)]).compl)
  else .ok ((CodeSet.single '\n').compl)

/-- Reads the item that begins with `c`. -/
def readItem (s : Scope) (c : Char) (cs : List Char) :
    Except Malformed (Item × Scope × List Char) := do
  let f := s.flags
  match c with
  | '(' => readGroup s cs
  | ')' =>
    match s.outer with
    | flags :: outer => .ok (.closing, { s with flags := flags, outer := outer }, cs)
    | [] => .error .unopenedGroup
  | '|' => .ok (.bar, s, cs)
  | '[' =>
    let (set, rest) ← readClass f cs
    .ok (.atom (f.oneIn set), s, rest)
  | '?' => let (greedy, rest) := readGreed f cs; .ok (.rep 0 (some 1) greedy, s, rest)
  | '*' => let (greedy, rest) := readGreed f cs; .ok (.rep 0 none greedy, s, rest)
  | '+' => let (greedy, rest) := readGreed f cs; .ok (.rep 1 none greedy, s, rest)
  | '\x7b' =>
    let (item, rest) ← readCounts f cs
    .ok (item, s, rest)
  | '.' => .ok (.atom (f.oneIn (← dotSet f)), s, cs)
  | '^' =>
    let look := if !f.manyLines then .textStart else if f.crlf then .lineStartCRLF else .lineStart
    .ok (.atom (.look look), s, cs)
  | '$' =>
    let look := if !f.manyLines then .textEnd else if f.crlf then .lineEndCRLF else .lineEnd
    .ok (.atom (.look look), s, cs)
  | '\\' =>
    let (atom, rest) ← readEscape f cs
    match atom with
    | .literal c byte => .ok (.atom (f.oneIn (← literalSet f c byte)), s, rest)
    | .oneOf set => .ok (.atom (f.oneIn set), s, rest)
    | .look l => .ok (.atom (.look l), s, rest)
  | c => .ok (.atom (f.oneIn (← literalSet f c false)), s, cs)

/-- Reads the items of a text, the first `skip` characters passed over. -/
def itemsFrom (skip : Nat) (s : Scope) : List Char → Except Malformed (List Item)
  | [] => .ok []
  | c :: cs =>
    match skip with
    | skip + 1 => itemsFrom skip s cs
    | 0 =>
      if s.flags.laidOut && (Unicode.isBlank c || c == '#') then
        itemsFrom (cs.length - (dropLayout true (c :: cs)).length) s cs
      else
        match readItem s c cs with
        | .error e => .error e
        | .ok (item, s, rest) =>
          match itemsFrom (cs.length - rest.length) s cs with
          | .error e => .error e
          | .ok items => .ok (item :: items)

/-- The items of a text. -/
def items (text : List Char) : Except Malformed (List Item) :=
  itemsFrom 0 ⟨.initial, [], 0, []⟩ text

end LineScopes.Pattern
