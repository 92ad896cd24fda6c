import FractionCalculator.Component
import FractionCalculator.Divisor

/-!
# Fractions

A fraction is a pair of components. What leaves a constructor is proper: the
denominator is positive and the sign lives on the numerator. Pairs are not kept
in lowest terms; reducing is an operation of its own.
-/

namespace FractionCalculator

structure Fraction where
  numerator : Int
  denominator : Int
deriving DecidableEq, Repr

namespace Fraction

def Proper (f : Fraction) : Prop :=
  Fits f.numerator ∧ Fits f.denominator ∧ 0 < f.denominator

instance (f : Fraction) : Decidable f.Proper :=
  inferInstanceAs (Decidable (_ ∧ _))

def whole (n : Int) : Fraction :=
  ⟨n, 1⟩

def normalize (f : Fraction) : Except Rejection Fraction :=
  if f.denominator = 0 then .error (.overZero f.numerator)
  else if 0 < f.denominator then .ok f
  else do
    let n ← Step.signNormalization.checked (-f.numerator)
    let d ← Step.signNormalization.checked (-f.denominator)
    return ⟨n, d⟩

def ofPair (n d : Int) : Except Rejection Fraction :=
  normalize ⟨n, d⟩

/-- The numerator of `w_n/d` as an improper fraction. A negative whole part makes all of it
negative; with a zero whole part the numerator stands as given. -/
def mixedNumerator (w n d : Int) : Except Rejection Int :=
  if w = 0 then .ok n
  else do
    let magnitude ← Step.mixedConversion.checked w.natAbs
    let scaled ← Step.mixedConversion.checked (magnitude * d)
    let total ← Step.mixedConversion.checked (scaled + n)
    if w < 0 then Step.mixedConversion.checked (-total) else return total

def mixed (w n d : Int) : Except Rejection Fraction :=
  if d = 0 then .error (.overZero n)
  else do ofPair (← mixedNumerator w n d) d

/-- Divides both components by their greatest common divisor. Zero keeps its denominator. -/
def reduce (f : Fraction) : Except Rejection Fraction :=
  if f.denominator = 0 then .error (.overZero f.numerator)
  else if f.numerator = 0 then .ok f
  else do
    let n ← Step.reduction.checked f.numerator.natAbs
    let d ← Step.reduction.checked f.denominator.natAbs
    let divisor : Int := gcd n.toNat d.toNat
    return ⟨f.numerator.tdiv divisor, f.denominator.tdiv divisor⟩

def display (f : Fraction) : Text :=
  Decimal.ofInt f.numerator ++ '/' :: Decimal.ofInt f.denominator

theorem proper_whole {n : Int} (h : Fits n) : (whole n).Proper :=
  ⟨h, by simp [whole, Fits], by simp [whole]⟩

theorem normalize_of_pos {f : Fraction} (h : 0 < f.denominator) : f.normalize = .ok f := by
  rw [normalize, if_neg (by omega), if_pos h]

theorem Proper.normalize {f : Fraction} (h : f.Proper) : f.normalize = .ok f :=
  normalize_of_pos h.2.2

end Fraction
end FractionCalculator
