/-
How long a line may be.

A limit may be set by the program; if none was set, the environment may give one in a
variable.

* `Override` — what the program set.  One word holds it: the largest word for nothing,
  and 0 for a line of any length.
* `Settings.limit` — the limit in force, if there is one.
-/
import LineScopes.Text.Decimal
import LineScopes.Unicode.Character

namespace LineScopes

/-! ### The program's limit -/

/-- The limit set by the program. -/
structure Override where
  word : UInt64
deriving DecidableEq, Repr

namespace Override

/-- The word for no limit set. -/
def unsetWord : UInt64 := UInt64.ofNat Text.maxWord

/-- The word for a line of any length. -/
def unlimitedWord : UInt64 := 0

/-- Nothing is set. -/
def unset : Override := ⟨unsetWord⟩

/-- What the program sets by giving a limit, or by giving none.  The word that stands for nothing
set is no limit either. -/
def set (limit : Option UInt64) : Override :=
  match limit with
  | some n => if n = unsetWord then ⟨unlimitedWord⟩ else ⟨n⟩
  | none => ⟨unlimitedWord⟩

end Override

/-! ### The limit of the environment -/

/-- The characters without the white space at both ends. -/
def trimBlank (cs : List Char) : List Char :=
  ((cs.dropWhile Unicode.isBlank).reverse.dropWhile Unicode.isBlank).reverse

/-- The limit that a variable gives: a positive number, white space around it allowed. -/
def variableLimit (text : String) : Option Nat :=
  (Text.readWord (trimBlank text.toList)).filter (· ≠ 0)

/-! ### The limit in force -/

/-- What the program set, and the bytes of the variable if it exists. -/
structure Settings where
  override : Override
  environment : Option ByteArray

namespace Settings

/-- Nothing is set, and there is no variable. -/
def initial : Settings := ⟨.unset, none⟩

/-- The limit of the environment; none if the variable is not in UTF-8. -/
def environmentLimit (s : Settings) : Option Nat :=
  (s.environment.bind String.fromUTF8?).bind variableLimit

/-- The limit in force: that of the program if it set any, or else that of the environment. -/
def limit (s : Settings) : Option Nat :=
  if s.override.word = Override.unsetWord then s.environmentLimit
  else if s.override.word = Override.unlimitedWord then none
  else some s.override.word.toNat

end Settings

end LineScopes
