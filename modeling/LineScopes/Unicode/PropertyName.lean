/-
Names of sets of characters.

* `propertySet?` reads a single name, such as `Lu`, `Greek` or `Alphabetic`: a
  yes-or-no property comes before a category, a category before a script;
* `propertyValueSet?` reads a property with a value, such as `Script=Greek` or `Age=6.0`.

Names are compared in their loose spelling (`looseName`): case, spaces, hyphens
and low lines do not count, nor does an `is` in front.
-/
import LineScopes.Unicode.Age
import LineScopes.Unicode.BinaryProperty
import LineScopes.Unicode.Script
import LineScopes.Unicode.Segmentation

namespace LineScopes.Unicode

/-- Drops what does not count in a name. -/
def looseChars (name : List Char) : List Char :=
  (name.filter fun c => c.toNat < 0x80 && c != ' ' && c != '_' && c != '-').map Char.toLower

/-- The loose spelling of a name.  The one-letter name that would be left of `isc` belongs to
another property, so it keeps its front. -/
def looseName (name : List Char) : String :=
  match name with
  | i :: s :: rest =>
    if i.toLower = 'i' ∧ s.toLower = 's' then
      let tail := String.ofList (looseChars rest)
      if tail = "c" then "isc" else tail
    else String.ofList (looseChars name)
  | _ => String.ofList (looseChars name)

/-- The characters that a single name stands for.  The names `cf`, `sc` and `lc` also abbreviate
properties with values; here they are categories. -/
def propertySet? (name : List Char) : Option CodeSet :=
  let name := looseName name
  let categories := ["cf", "sc", "lc"]
  (if categories.contains name then none else binaryPropertySet? name)
    <|> categorySet? name <|> scriptSet? name

/-- The characters for which a property has a value. -/
def propertyValueSet? (name value : List Char) : Option CodeSet :=
  let name := looseName name
  let value := looseName value
  if name = "gc" ∨ name = "generalcategory" then categorySet? value
  else if name = "sc" ∨ name = "script" then scriptSet? value
  else if name = "scx" ∨ name = "scriptextensions" then scriptExtensionSet? value
  else if name = "age" then ageSet? value
  else if name = "gcb" ∨ name = "graphemeclusterbreak" then graphemeBreakSet? value
  else if name = "wb" ∨ name = "wordbreak" then wordBreakSet? value
  else if name = "sb" ∨ name = "sentencebreak" then sentenceBreakSet? value
  else none

end LineScopes.Unicode
