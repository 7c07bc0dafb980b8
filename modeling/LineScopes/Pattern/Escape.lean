/-
Flags and escapes of patterns.

* `Flags` — what `(?i)` and its like switch on and off;
* `readEscape` — what a backslash and the characters behind it stand for.
-/
import LineScopes.Pattern.Basic
import LineScopes.Pattern.Blank
import LineScopes.Pattern.Literal
import LineScopes.Unicode.CaseFold
import LineScopes.Unicode.PropertyName

namespace LineScopes.Pattern

/-! ### Flags -/

/-- How a part of a pattern is to be understood. -/
structure Flags where
  /-- Case does not count (`i`). -/
  anyCase : Bool
  /-- The line signs stand for the ends of lines (`m`). -/
  manyLines : Bool
  /-- The dot stands for every character (`s`). -/
  dotAll : Bool
  /-- Repetitions are as short as possible (`U`). -/
  swapGreed : Bool
  /-- Characters are those of Unicode, not of ASCII (`u`). -/
  unicode : Bool
  /-- A carriage return ends a line, too (`R`). -/
  crlf : Bool
  /-- Space and comments mean nothing (`x`). -/
  laidOut : Bool
deriving DecidableEq, Repr

/-- The flags at the beginning of a pattern. -/
def Flags.initial : Flags := ⟨false, false, false, false, true, false, false⟩

/-- Sets the flag of a letter. -/
def Flags.set? (f : Flags) (value : Bool) : Char → Option Flags
  | 'i' => some { f with anyCase := value }
  | 'm' => some { f with manyLines := value }
  | 's' => some { f with dotAll := value }
  | 'U' => some { f with swapGreed := value }
  | 'u' => some { f with unicode := value }
  | 'R' => some { f with crlf := value }
  | 'x' => some { f with laidOut := value }
  | _ => none

/-- Sets the flags of all letters, those behind a hyphen to `false`. -/
def Flags.setAll? (f : Flags) (value : Bool) : List Char → Option Flags
  | [] => some f
  | '-' :: cs => f.setAll? false cs
  | c :: cs => (f.set? value c).bind fun f => f.setAll? value cs

/-- The set with everything that the flags take for the same. -/
def Flags.fold (f : Flags) (s : CodeSet) : CodeSet :=
  if f.anyCase then if f.unicode then s.foldClosure else s.asciiFoldClosure else s

/-- The complement of a set.  Without Unicode it would hold bytes that are no characters. -/
def Flags.negate (f : Flags) (negated : Bool) (s : CodeSet) : Except Malformed CodeSet :=
  if negated then if f.unicode then .ok s.compl else .error .notText else .ok s

/-! ### Escapes -/

/-- What an escape stands for. -/
inductive Atom where
  /-- A character; `byte` if it was written as one by two digits. -/
  | literal (c : Char) (byte : Bool)
  /-- A character of a set. -/
  | oneOf (s : CodeSet)
  /-- A condition on the place. -/
  | look (l : Look)

/-- The characters of the ASCII class of a name. -/
def asciiClass? : String → Option CodeSet
  | "alnum" => some (.ofRanges [(0x30, 0x39), (0x41, 0x5A), (0x61, 0x7A)])
  | "alpha" => some (.ofRanges [(0x41, 0x5A), (0x61, 0x7A)])
  | "ascii" => some (.range 0 0x7F)
  | "blank" => some (.ofRanges [(0x09, 0x09), (0x20, 0x20)])
  | "cntrl" => some (.ofRanges [(0, 0x1F), (0x7F, 0x7F)])
  | "digit" => some (.range 0x30 0x39)
  | "graph" => some (.range 0x21 0x7E)
  | "lower" => some (.range 0x61 0x7A)
  | "print" => some (.range 0x20 0x7E)
  | "punct" => some (.ofRanges [(0x21, 0x2F), (0x3A, 0x40), (0x5B, 0x60), (0x7B, 0x7E)])
  | "space" => some (.ofRanges [(0x09, 0x0D), (0x20, 0x20)])
  | "upper" => some (.range 0x41 0x5A)
  | "word" => some (.ofRanges [(0x30, 0x39), (0x41, 0x5A), (0x5F, 0x5F), (0x61, 0x7A)])
  | "xdigit" => some (.ofRanges [(0x30, 0x39), (0x41, 0x46), (0x61, 0x66)])
  | _ => none

/-- The digits. -/
def Flags.digits (f : Flags) : CodeSet := if f.unicode then Unicode.digitSet else .range 0x30 0x39

/-- White space. -/
def Flags.blanks (f : Flags) : CodeSet :=
  if f.unicode then Unicode.blankSet else (asciiClass? "space").getD .empty

/-- The characters of words. -/
def Flags.words (f : Flags) : CodeSet :=
  if f.unicode then Unicode.wordSet else (asciiClass? "word").getD .empty

/-- The value of a hexadecimal digit. -/
def hexValue? (c : Char) : Option Nat :=
  if c.isDigit then some (c.toNat - '0'.toNat)
  else if 'a' ≤ c ∧ c ≤ 'f' then some (c.toNat - 'a'.toNat + 10)
  else if 'A' ≤ c ∧ c ≤ 'F' then some (c.toNat - 'A'.toNat + 10)
  else none

/-- The character of a code point in hexadecimal digits. -/
def hexChar (digits : List Char) : Except Malformed Char :=
  match digits.mapM hexValue? with
  | none => .error .badCodePoint
  | some [] => .error .badCodePoint
  | some values =>
    let n := values.foldl (fun n v => 16 * n + v) 0
    if h : n.isValidChar then .ok (Char.ofNatAux n h) else .error .badCodePoint

/-- Reads the given number of characters. -/
def readChars (laidOut : Bool) : Nat → List Char → Except Malformed (List Char × List Char)
  | 0, cs => .ok ([], cs)
  | n + 1, cs =>
    match dropLayout laidOut cs with
    | [] => .error .unexpectedEnd
    | c :: cs => do
      let (body, rest) ← readChars laidOut n cs
      .ok (c :: body, rest)

/-- Reads a code point: in braces, or in the given number of digits. -/
def readHex (laidOut : Bool) (count : Nat) (cs : List Char) : Except Malformed (Atom × List Char) :=
  match dropLayout laidOut cs with
  | '\x7b' :: cs =>
    match upToBrace laidOut false cs with
    | none => .error .unexpectedEnd
    | some (digits, rest) => do
      let c ← hexChar digits
      .ok (.literal c false, dropLayout laidOut rest)
  | cs => do
    let (digits, rest) ← readChars laidOut count cs
    let c ← hexChar digits
    .ok (.literal c (count = 2), dropLayout laidOut rest)

/-- Splits a property from its value: at `!=`, which negates, or else at a colon, or else at an
equals sign. -/
def splitProperty (name : List Char) : Bool × List Char × Option (List Char) :=
  let cut (sign : List Char) : Option (List Char × List Char) :=
    ((List.range name.length).find? fun i => sign.isPrefixOf (name.drop i)).map fun i =>
      (name.take i, name.drop (i + sign.length))
  match cut ['!', '='] with
  | some (property, value) => (true, property, some value)
  | none =>
    match cut [':'] <|> cut ['='] with
    | some (property, value) => (false, property, some value)
    | none => (false, name, none)

/-- The characters that a property in braces stands for. -/
def namedSet (f : Flags) (negated : Bool) (name : List Char) : Except Malformed CodeSet :=
  let (flipped, property, value) := splitProperty name
  let set? := match value with
    | some value => Unicode.propertyValueSet? property value
    | none => Unicode.propertySet? property
  match set? with
  | none => .error .unknownProperty
  | some s => if f.unicode then f.negate (negated != flipped) (f.fold s) else .error .notText

/-- Reads a property: one letter, or a name in braces. -/
def readProperty (f : Flags) (negated : Bool) (cs : List Char) :
    Except Malformed (Atom × List Char) :=
  match dropLayout f.laidOut cs with
  | [] => .error .unexpectedEnd
  | '\x7b' :: cs =>
    match upToBrace f.laidOut false cs with
    | none => .error .unexpectedEnd
    | some (name, rest) => do
      let s ← namedSet f negated name
      .ok (.oneOf s, rest)
  | '\\' :: _ => .error .unknownProperty
  | c :: rest => do
    match Unicode.propertySet? [c] with
    | none => .error .unknownProperty
    | some s =>
      if f.unicode then
        let s ← f.negate negated (f.fold s)
        .ok (.oneOf s, rest)
      else .error .notText

/-- Whether `c` can be in the name of an edge of words. -/
def isEdgeChar (c : Char) : Bool := c.isAlpha || c == '-'

/-- Reads what follows `\b`: the name of an edge in braces, or nothing.  Braces with anything else
in them belong to a repetition. -/
def readEdge (laidOut : Bool) (cs : List Char) : Except Malformed (WordEdge × List Char) :=
  match cs with
  | '\x7b' :: rest =>
    match dropLayout laidOut rest with
    | [] => .error .unexpectedEnd
    | c :: _ =>
      if isEdgeChar c then
        match upToBrace laidOut false rest with
        | none => .error .badEscape
        | some (name, after) =>
          match String.ofList name with
          | "start" => .ok (.start, after)
          | "end" => .ok (.stop, after)
          | "start-half" => .ok (.startHalf, after)
          | "end-half" => .ok (.stopHalf, after)
          | _ => .error .badEscape
      else .ok (.either, cs)
  | cs => .ok (.either, cs)

/-- Whether a backslash may stand in front of `c` to no effect. -/
def isEscapable (c : Char) : Bool :=
  isMeta c || (c.toNat < 0x80 && !c.isAlphanum && c != '<' && c != '>')

/-- Reads what follows a backslash. -/
def readEscape (f : Flags) (cs : List Char) : Except Malformed (Atom × List Char) :=
  match cs with
  | [] => .error .unexpectedEnd
  | c :: rest =>
    let class? (negated : Bool) (s : CodeSet) : Except Malformed (Atom × List Char) := do
      let s ← f.negate negated s
      .ok (.oneOf s, rest)
    let char (n : Nat) : Except Malformed (Atom × List Char) :=
      .ok (.literal (Char.ofNat n) false, rest)
    let ascii := !f.unicode
    match c with
    | 'x' => readHex f.laidOut 2 rest
    | 'u' => readHex f.laidOut 4 rest
    | 'U' => readHex f.laidOut 8 rest
    | 'p' => readProperty f false rest
    | 'P' => readProperty f true rest
    | 'd' => class? false f.digits
    | 'D' => class? true f.digits
    | 's' => class? false f.blanks
    | 'S' => class? true f.blanks
    | 'w' => class? false f.words
    | 'W' => class? true f.words
    | 'a' => char 0x07
    | 'f' => char 0x0C
    | 't' => char 0x09
    | 'n' => char 0x0A
    | 'r' => char 0x0D
    | 'v' => char 0x0B
    | 'A' => .ok (.look .textStart, rest)
    | 'z' => .ok (.look .textEnd, rest)
    | 'b' => do
      let (edge, rest) ← readEdge f.laidOut rest
      .ok (.look (.word ascii edge), rest)
    | 'B' => .ok (.look (.word ascii .neither), rest)
    | '<' => .ok (.look (.word ascii .start), rest)
    | '>' => .ok (.look (.word ascii .stop), rest)
    | c => if isEscapable c then .ok (.literal c false, rest) else .error .badEscape

end LineScopes.Pattern
