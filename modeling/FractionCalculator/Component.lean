import FractionCalculator.Rejection

/-!
# Components

The two components of a fraction, and every value computed on the way to one,
are signed 32-bit integers. A value is computed exactly and then checked: the
check keeps it or rejects the query, naming the step, and never wraps it.
-/

namespace FractionCalculator

def Fits (n : Int) : Prop :=
  -2147483648 ≤ n ∧ n ≤ 2147483647

instance (n : Int) : Decidable (Fits n) :=
  inferInstanceAs (Decidable (_ ∧ _))

theorem fits_iff_natAbs {n : Int} : Fits n ↔ n.natAbs ≤ 2147483647 ∨ n = -2147483648 := by
  unfold Fits; omega

inductive Step where
  | integer (text : Text)
  | mixedConversion
  | signNormalization
  | reduction
  | commonDenominator
  | addition
  | subtraction
  | multiplication
  | division
  | formatting
deriving DecidableEq, Repr

def Step.name : Step → Text
  | .integer text => "Integer ".toList ++ text
  | .mixedConversion => "Mixed number to improper fraction conversion".toList
  | .signNormalization => "Fraction sign normalization".toList
  | .reduction => "Fraction reduction".toList
  | .commonDenominator => "Common denominator scaling".toList
  | .addition => "Addition".toList
  | .subtraction => "Subtraction".toList
  | .multiplication => "Multiplication".toList
  | .division => "Division".toList
  | .formatting => "Result formatting".toList

/-- The steps and their names. -/
theorem Step.name_eq_iff {step : Step} {t : Text} :
    step.name = t ↔ (∃ text, step = .integer text ∧ t = "Integer ".toList ++ text) ∨
      (step, t) ∈ [(mixedConversion, "Mixed number to improper fraction conversion".toList),
        (signNormalization, "Fraction sign normalization".toList),
        (reduction, "Fraction reduction".toList),
        (commonDenominator, "Common denominator scaling".toList),
        (addition, "Addition".toList), (subtraction, "Subtraction".toList),
        (multiplication, "Multiplication".toList), (division, "Division".toList),
        (formatting, "Result formatting".toList)] := by
  constructor
  · rintro rfl
    cases step with
    | integer text => exact .inl ⟨text, rfl, rfl⟩
    | _ => exact .inr (by decide +kernel)
  · rintro (⟨text, rfl, rfl⟩ | h)
    · rfl
    · simp only [List.mem_cons, Prod.mk.injEq, List.not_mem_nil, or_false] at h
      rcases h with ⟨rfl, rfl⟩ | ⟨rfl, rfl⟩ | ⟨rfl, rfl⟩ | ⟨rfl, rfl⟩ | ⟨rfl, rfl⟩ | ⟨rfl, rfl⟩ |
        ⟨rfl, rfl⟩ | ⟨rfl, rfl⟩ | ⟨rfl, rfl⟩ <;> rfl

def Step.overflow (step : Step) : Rejection :=
  .integerOverflow step.name

def Step.checked (step : Step) (n : Int) : Except Rejection Int :=
  if Fits n then .ok n else .error step.overflow

theorem Step.checked_of_fits (step : Step) {n : Int} (h : Fits n) : step.checked n = .ok n :=
  if_pos h

theorem Step.checked_of_not_fits (step : Step) {n : Int} (h : ¬Fits n) :
    step.checked n = .error step.overflow :=
  if_neg h

theorem Step.checked_eq_ok_iff {step : Step} {n m : Int} :
    step.checked n = .ok m ↔ Fits n ∧ m = n := by
  unfold Step.checked
  split <;> simp_all [eq_comm]

theorem Step.checked_bind {α : Type} (step : Step) (n : Int) (f : Int → Except Rejection α) :
    (step.checked n >>= f) = if Fits n then f n else .error step.overflow := by
  unfold Step.checked
  split <;> rfl

end FractionCalculator
