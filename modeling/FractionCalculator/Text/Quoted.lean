import FractionCalculator.Text.Printable

/-!
# Quoted text

The quoted form of a text stands between double quotes and holds printable
characters only: the quote, the backslash and the usual controls are written
with a backslash, any other unprintable character by its code point in
hexadecimal. The apostrophe stands as it is.
-/

namespace FractionCalculator.Text.Quoted

def codePoint (c : Char) : Text :=
  ['\\', 'u', '\x7b'] ++ Nat.toDigits 16 c.toNat ++ ['\x7d']

def char (c : Char) : Text :=
  match c with
  | '\x00' => ['\\', '0']
  | '\t' => ['\\', 't']
  | '\r' => ['\\', 'r']
  | '\n' => ['\\', 'n']
  | '"' => ['\\', '"']
  | '\\' => ['\\', '\\']
  | c => if isPrintable c then [c] else codePoint c

end Quoted

def quoted (t : Text) : Text :=
  '"' :: t.flatMap Quoted.char ++ ['"']

end FractionCalculator.Text
