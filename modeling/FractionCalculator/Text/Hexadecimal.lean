import FractionCalculator.Text

/-!
# Hexadecimal digits

Digits are read in either case and written in lower case.
-/

namespace FractionCalculator.Hexadecimal

def digit? (c : Char) : Option Nat :=
  if c.isDigit then some (c.toNat - '0'.toNat)
  else if 'a' ≤ c ∧ c ≤ 'f' then some (c.toNat - 'a'.toNat + 10)
  else if 'A' ≤ c ∧ c ≤ 'F' then some (c.toNat - 'A'.toNat + 10)
  else none

def pair? (h l : Char) : Option Nat := do
  return (← digit? h) * 16 + (← digit? l)

def quad? (a b c d : Char) : Option Nat := do
  return (← pair? a b) * 256 + (← pair? c d)

def ofByte (n : Nat) : Text :=
  [Nat.digitChar (n / 16), Nat.digitChar (n % 16)]

theorem digit?_digitChar {n : Nat} (h : n < 16) : digit? (Nat.digitChar n) = some n := by
  revert n; decide

theorem pair?_ofByte {n : Nat} (h : n < 256) :
    pair? (Nat.digitChar (n / 16)) (Nat.digitChar (n % 16)) = some n := by
  have high := digit?_digitChar (n := n / 16) (by omega)
  have low := digit?_digitChar (n := n % 16) (by omega)
  have : n / 16 * 16 + n % 16 = n := by omega
  simp [pair?, high, low, this]

end FractionCalculator.Hexadecimal
