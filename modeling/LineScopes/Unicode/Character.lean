/-
Classes of characters.

* `isWord` — what a word is made of: letters, marks, decimal digits, connecting
  punctuation and the joiners;
* `isDecimalDigit`, `isBlank`, `isAlphabetic`, `isAlphanumeric` — as in the
  Unicode properties of these names, blank being "white space";
* `isPlain` — what quoted text shows as it is: printable, and not a mark that
  would attach itself to the character before.

Design notes: words, digits and white space are those of Unicode 16, the other
classes those of Unicode 17.  The first 128 code points are given by rule and not
by table, since most text and most proofs live there.
-/
import LineScopes.Unicode.BinaryProperty
import LineScopes.Unicode.Version17

namespace LineScopes.Unicode

/-! ### Sets -/

/-- The decimal digits of every script. -/
def digitSet : CodeSet := (basicCategorySet? "nd").getD .empty

/-- White space. -/
def blankSet : CodeSet := (binaryPropertySet? "whitespace").getD .empty

/-- Letters, letter-like numbers and symbols, and the marks that belong to them. -/
def alphabeticSet : CodeSet := (binaryPropertySet? "alphabetic").getD .empty

/-- Numbers of every kind. -/
def numericSet : CodeSet := (categorySet? "n").getD .empty

/-- Letters, marks, decimal digits, connecting punctuation and the joiners. -/
def wordSet : CodeSet :=
  .ofRanges <| [alphabeticSet, (categorySet? "m").getD .empty, digitSet,
    (basicCategorySet? "pc").getD .empty, .range 0x200C 0x200D].flatMap (·.ranges)

/-- Marks that extend the character before them. -/
def extendingSet : CodeSet := (binaryPropertySet? "graphemeextend").getD .empty |>.union newExtending

/-- The two marks that extend the character before them and yet stand beside it, in a place of their
own. -/
def besideSet : CodeSet := .range 0xFF9E 0xFF9F

/-- Everything with a visible form, and the space: no control, format, private or unassigned
character, no other separator, and nothing that may be ignored in a display. -/
def printableSet : CodeSet :=
  let hidden := ["cc", "cf", "co", "zl", "zp", "zs"].flatMap fun name =>
    ((basicCategorySet? name).getD .empty).ranges
  let ignorable := ((binaryPropertySet? "defaultignorablecodepoint").getD .empty).ranges
  ((assigned.union newPrintable).diff (.ofRanges (hidden ++ ignorable))).union (.single ' ')

/-- Everything that quoted text shows as it is. -/
def plainSet : CodeSet := printableSet.diff (extendingSet.diff besideSet)

/-! ### Predicates -/

/-- Whether words are made of `c`. -/
def isWord (c : Char) : Bool :=
  if c.toNat < 0x80 then c.isAlphanum || c == '_' else wordSet.contains c

/-- Whether `c` is a decimal digit of some script. -/
def isDecimalDigit (c : Char) : Bool :=
  if c.toNat < 0x80 then c.isDigit else digitSet.contains c

/-- Whether `c` is white space. -/
def isBlank (c : Char) : Bool :=
  if c.toNat < 0x80 then c == ' ' || ('\t' ≤ c && c ≤ '\x0d') else blankSet.contains c

/-- Whether `c` is alphabetic. -/
def isAlphabetic (c : Char) : Bool :=
  if c.toNat < 0x80 then c.isAlpha else alphabeticSet.contains c || newAlphabetic.contains c

/-- Whether `c` is alphabetic or a number. -/
def isAlphanumeric (c : Char) : Bool :=
  if c.toNat < 0x80 then c.isAlphanum
  else isAlphabetic c || numericSet.contains c || newNumeric.contains c

/-- Whether `c` can be shown as it is. -/
def isPlain (c : Char) : Bool :=
  if c.toNat < 0x80 then ' ' ≤ c && c ≤ '~' else plainSet.contains c

end LineScopes.Unicode
