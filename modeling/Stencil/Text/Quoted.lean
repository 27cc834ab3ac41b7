import Stencil.Text.Printable

/-!
Texts between double quotes. A quote and a backslash are written after a backslash, the common
controls by a letter, and any other hidden character by its code point in hexadecimal.
-/

namespace Stencil.Text

/-- How a quoted text writes one character. -/
def quoteChar (c : Char) : List Char :=
  match c with
  | '\x00' => ['\\', '0']
  | '\t' => ['\\', 't']
  | '\r' => ['\\', 'r']
  | '\n' => ['\\', 'n']
  | '\\' => ['\\', '\\']
  | '"' => ['\\', '"']
  | c => if isPrintable c then [c] else "\\u\x7b".toList ++ Nat.toDigits 16 c.toNat ++ ['\x7d']

/-- A text between double quotes. -/
def quoted (s : String) : String := String.ofList ('"' :: s.toList.flatMap quoteChar ++ ['"'])

end Stencil.Text
