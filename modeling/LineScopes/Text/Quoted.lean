/-
Quoted text.

Between double quotes a text is shown as it is, except that

* a quote and a backslash have a backslash in front;
* a tab, a line feed, a carriage return and a null are `\t`, `\n`, `\r`, `\0`;
* any other character that cannot be shown is given by its code point, `\u{301}`.

`quote` is this form.
-/
import LineScopes.Unicode.Character

namespace LineScopes.Text

/-- The digits of `n` in hexadecimal, small letters, none in front that is zero. -/
def hexText (n : Nat) : List Char := Nat.toDigits 16 n

/-- The form of one character between quotes. -/
def quoteChar (c : Char) : List Char :=
  match c with
  | '"' => ['\\', '"']
  | '\\' => ['\\', '\\']
  | '\t' => ['\\', 't']
  | '\n' => ['\\', 'n']
  | '\r' => ['\\', 'r']
  | '\x00' => ['\\', '0']
  | c =>
    if Unicode.isPlain c then [c]
    else ['\\', 'u', '\x7b'] ++ hexText c.toNat ++ ['\x7d']

/-- The text between double quotes. -/
def quote (text : String) : String :=
  String.ofList ('"' :: text.toList.flatMap quoteChar ++ ['"'])

end LineScopes.Text
