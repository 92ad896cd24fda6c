import FractionCalculator.Proofs.Conversion

/-!
# Reasons to refuse an operand

A text that is no operand may be faulty in several ways at once. Six reasons are told
apart, and the first of them that applies to a text is the one that is reported: a
dot, a form other than the one its marks ask for, a sign inside a mixed number, a
component that is too large, a zero denominator, and last an integer out of range
on the way to the pair. A text to which none applies is an operand.
-/

namespace FractionCalculator.Operand

/-- More than ten digits, the sign apart, or an integer that is no component. -/
def TooLarge (t : Text) : Prop :=
  10 < (Decimal.splitSign t).2.length ∨ ¬Fits (Decimal.value t)

instance (t : Text) : Decidable (TooLarge t) :=
  inferInstanceAs (Decidable (_ ∨ _))

inductive Reason where
  | decimal
  | form
  | sign
  | component
  | zero
  | step
deriving DecidableEq, Repr

def Reason.rank : Reason → Nat
  | .decimal => 0
  | .form => 1
  | .sign => 2
  | .component => 3
  | .zero => 4
  | .step => 5

variable {t w n d : Text} {shape : Shape} {parts : List Text} {r : Reason} {e : Rejection}

/-! ## A text and its components -/

theorem parseInteger_of_signedDigits (h : IsSignedDigits t) :
    parseInteger t =
      if TooLarge t then .error (Step.integer t).overflow else .ok (Decimal.value t) := by
  rw [parseInteger_eq_checked h]
  by_cases hl : maxDigits < (Decimal.splitSign t).2.length
  · have hlarge : TooLarge t := Or.inl hl
    rw [if_pos hl, if_pos hlarge]
  · have hlarge : TooLarge t ↔ ¬Fits (Decimal.value t) := or_iff_right hl
    simp only [if_neg hl, Step.checked, hlarge, ite_not]

example : parse "1_-00000000001/0".toList =
      .error (.illegalMixedNumberSign "1_-00000000001/0".toList) ∧
    parse "1_00000000001/0".toList = .error (Step.integer "00000000001".toList).overflow ∧
    parse "1_1/0".toList = .error (.undefinedFraction "1_1/0".toList) := by
  decide +kernel

end FractionCalculator.Operand
