import FractionCalculator.Text

/-!
# Decimal numerals

A natural number is written with the fewest ASCII digits, a negative integer
with one minus before its magnitude. Reading takes the value of any digits,
leading zeros included.
-/

namespace FractionCalculator.Decimal

def ofNat (n : Nat) : Text :=
  Nat.toDigits 10 n

def ofInt (n : Int) : Text :=
  if n < 0 then '-' :: ofNat n.natAbs else ofNat n.natAbs

def splitSign : Text → Text × Text
  | '-' :: r => (['-'], r)
  | r => ([], r)

def natValue (digits : Text) : Nat :=
  Nat.ofDigitChars 10 digits 0

def value (t : Text) : Int :=
  match splitSign t with
  | ([], digits) => natValue digits
  | (_, digits) => -natValue digits

@[simp] theorem natValue_ofNat (n : Nat) : natValue (ofNat n) = n :=
  Nat.ofDigitChars_ten_toDigits

theorem isDigit_of_mem_ofNat {n : Nat} {c : Char} (h : c ∈ ofNat n) : c.isDigit = true :=
  Nat.isDigit_of_mem_toDigits (by decide) (by decide) h

end FractionCalculator.Decimal
