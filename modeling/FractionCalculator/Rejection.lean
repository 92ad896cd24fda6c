import FractionCalculator.Text.Decimal

/-!
# Rejections

A query is rejected for one cause. Its code names the kind of cause; its message
is one sentence that quotes what was found, so code and message together give
the cause back.
-/

namespace FractionCalculator

inductive Shape where
  | whole
  | fraction
  | mixed
deriving DecidableEq, Repr

def Shape.description : Shape → Text
  | .whole => "whole number (A)".toList
  | .fraction => "fraction (A/B)".toList
  | .mixed => "mixed number (A_B/C)".toList

inductive Rejection where
  | inputTooLong (length max : Nat)
  | wrongTokenCount (count : Nat)
  | unknownOperator (token : Text)
  | decimalNotSupported (operand : Text)
  | illegalMixedNumberSign (operand : Text)
  | malformedOperand (expected : Shape) (operand : Text)
  | integerOverflow (step : Text)
  | undefinedFraction (fraction : Text)
deriving DecidableEq, Repr

namespace Rejection

def code : Rejection → Text
  | .inputTooLong .. => "input_too_long".toList
  | .wrongTokenCount _ => "wrong_token_count".toList
  | .unknownOperator _ => "unknown_operator".toList
  | .decimalNotSupported _ => "decimal_not_supported".toList
  | .illegalMixedNumberSign _ => "illegal_mixed_number_sign".toList
  | .malformedOperand .. => "malformed_operand".toList
  | .integerOverflow _ => "integer_overflow".toList
  | .undefinedFraction _ => "undefined_fraction".toList

def message : Rejection → Text
  | .inputTooLong length max =>
    "Input query of ".toList ++ Decimal.ofNat length ++
      " characters exceeds the maximum of ".toList ++ Decimal.ofNat max
  | .wrongTokenCount count =>
    "Invalid input query, expected 3 values but found ".toList ++ Decimal.ofNat count
  | .unknownOperator token =>
    "Expected arithmetic operation token (+, -, *, /) between operands but found: ".toList ++ token
  | .decimalNotSupported operand =>
    "Decimal numbers are not supported but found: ".toList ++ operand
  | .illegalMixedNumberSign operand =>
    "Mixed number may only carry a sign on its whole number part but found: ".toList ++ operand
  | .malformedOperand expected operand =>
    "Expected ".toList ++ expected.description ++ " but found: ".toList ++ operand
  | .integerOverflow step =>
    step ++ " exceeds the signed 32-bit integer range (-2,147,483,648 to 2,147,483,647)".toList
  | .undefinedFraction fraction =>
    "Fraction ".toList ++ fraction ++ " is undefined".toList

def overZero (numerator : Int) : Rejection :=
  .undefinedFraction (Decimal.ofInt numerator ++ "/0".toList)

end Rejection

theorem ok_bind {α β : Type} (a : α) (f : α → Except Rejection β) : (.ok a >>= f) = f a :=
  rfl

theorem error_bind {α β : Type} (cause : Rejection) (f : α → Except Rejection β) :
    (.error cause >>= f) = .error cause :=
  rfl

theorem bind_eq_ok_iff {α β : Type} {x : Except Rejection α} {f : α → Except Rejection β}
    {b : β} : (x >>= f) = .ok b ↔ ∃ a, x = .ok a ∧ f a = .ok b := by
  cases x <;> simp [bind, Except.bind]

theorem mapError_eq_ok_iff {α : Type} {x : Except Rejection α} {f : Rejection → Rejection}
    {a : α} : x.mapError f = .ok a ↔ x = .ok a := by
  cases x with
  | ok b => exact Iff.rfl
  | error e =>
    change Except.error (f e) = Except.ok a ↔ Except.error e = Except.ok a
    simp

end FractionCalculator
