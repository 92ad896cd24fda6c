import FractionCalculator.Fraction
import FractionCalculator.Operator

/-!
# Arithmetic on fractions

Sums and differences scale both operands onto the product of their denominators,
not onto the least common one. A quotient is the product with the reciprocal,
its sign moved onto the numerator first. Results are proper and not reduced;
each integer on the way is checked in the order in which it is computed.
-/

namespace FractionCalculator.Fraction

def commonDenominator (l r : Fraction) : Except Rejection (Fraction × Fraction) := do
  let checked := Step.commonDenominator.checked
  let denominator ← checked (l.denominator * r.denominator)
  let left ← ofPair (← checked (l.numerator * r.denominator)) denominator
  let right ← ofPair (← checked (r.numerator * l.denominator)) denominator
  return (left, right)

def add (l r : Fraction) : Except Rejection Fraction := do
  let (l, r) ← commonDenominator l r
  ofPair (← Step.addition.checked (l.numerator + r.numerator)) l.denominator

def subtract (l r : Fraction) : Except Rejection Fraction := do
  let (l, r) ← commonDenominator l r
  ofPair (← Step.subtraction.checked (l.numerator - r.numerator)) l.denominator

def multiply (l r : Fraction) : Except Rejection Fraction := do
  let n ← Step.multiplication.checked (l.numerator * r.numerator)
  let d ← Step.multiplication.checked (l.denominator * r.denominator)
  ofPair n d

def divide (l r : Fraction) : Except Rejection Fraction := do
  let checked := Step.division.checked
  let n ← checked (l.numerator * r.denominator)
  let d ← checked (l.denominator * r.numerator)
  if r.numerator < 0 then ofPair (← checked (-n)) (← checked (-d))
  else ofPair n d

def evaluate (l : Fraction) : Operator → Fraction → Except Rejection Fraction
  | .add, r => l.add r
  | .subtract, r => l.subtract r
  | .multiply, r => l.multiply r
  | .divide, r => l.divide r

end FractionCalculator.Fraction
