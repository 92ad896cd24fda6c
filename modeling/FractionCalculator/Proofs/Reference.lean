import FractionCalculator.Proofs.Arithmetic

/-!
# The reference of an operation

Computed without bound, an operation has a list of integers and a pair, and what
it answers can be read off them: the first integer that is no component rejects
with its step, and where all of them are components the pair is the answer. A
division by zero has no pair; it is undefined once the numerator that stands over
zero is a component, and an overflow before that.
-/

namespace FractionCalculator

namespace Operator

variable {l r : Fraction} {op : Operator}

/-- What an operation answers, read off its integers. -/
def reference (l r : Fraction) (op : Operator) : Except Rejection Fraction :=
  match (op.integers l r).find? (¬Fits ·.2) with
  | some c => .error c.1.overflow
  | none =>
    if op = .divide ∧ r.numerator = 0 then .error (.overZero (l.numerator * r.denominator))
    else .ok (op.pair l r)

def steps : Operator → List Step
  | .add => [.commonDenominator, .addition]
  | .subtract => [.commonDenominator, .subtraction]
  | .multiply => [.multiplication]
  | .divide => [.division]

theorem mem_steps_of_integers (l r : Fraction) (op : Operator) :
    ∀ c ∈ op.integers l r, c.1 ∈ op.steps := by
  cases op with
  | add => simp [integers, steps]
  | subtract => simp [integers, steps]
  | multiply => simp [integers, steps]
  | divide =>
    by_cases hn : r.numerator < 0
    · simp [integers, steps, hn]
    · simp [integers, steps, hn]

theorem overflow_ne_signNormalization (op : Operator) :
    ∀ step ∈ op.steps, step.overflow ≠ Step.signNormalization.overflow := by
  cases op <;> decide +kernel

theorem reference_eq_error {cause : Rejection} (h : op.reference l r = .error cause) :
    (∃ step ∈ op.steps, cause = step.overflow) ∨
      op = .divide ∧ cause = .overZero (l.numerator * r.denominator) := by
  unfold reference at h
  split at h
  · next c hc =>
    have hs := mem_steps_of_integers l r op c (List.mem_of_find?_eq_some hc)
    exact Or.inl ⟨c.1, hs, (Except.error.inj h).symm⟩
  · split_ifs at h with hz
    exact Or.inr ⟨hz.1, (Except.error.inj h).symm⟩

end Operator

namespace Fraction

variable {l r : Fraction}

theorem evaluate_eq_reference (hl : 0 < l.denominator) (hr : 0 < r.denominator) (op : Operator) :
    l.evaluate op r = op.reference l r := by
  rw [evaluate_eq hl hr, Operator.reference, Step.checkAll_eq]
  cases (op.integers l r).find? (¬Fits ·.2) <;> rfl

/-- An operation answers what its reference answers. Its pair has its sign on the numerator already,
and only a division meets a denominator of zero. -/
theorem evaluate_referenced (hl : Constructed l) (hr : Constructed r) (op : Operator) :
    l.evaluate op r = op.reference l r ∧
      l.evaluate op r ≠ .error Step.signNormalization.overflow ∧
      (op ≠ .divide → ∀ t, l.evaluate op r ≠ .error (.undefinedFraction t)) := by
  have he := evaluate_eq_reference hl.proper.2.2 hr.proper.2.2 op
  refine ⟨he, ?_, ?_⟩
  · intro h
    rcases Operator.reference_eq_error (he ▸ h) with ⟨step, hs, hc⟩ | ⟨-, hc⟩
    · exact op.overflow_ne_signNormalization step hs hc.symm
    · cases hc
  · intro hd t h
    rcases Operator.reference_eq_error (he ▸ h) with ⟨step, -, hc⟩ | ⟨hd', -⟩
    · cases hc
    · exact hd hd'

theorem evaluate_referenced_least :
    let l : Fraction := ⟨-2147483648, 1⟩
    let r : Fraction := ⟨-1, 1⟩
    l.evaluate .divide r = Operator.divide.reference l r ∧
      Operator.divide.reference l r = .error Step.division.overflow ∧
      l.evaluate .divide r ≠ .error Step.signNormalization.overflow ∧
      ∀ t, l.evaluate .multiply r ≠ .error (.undefinedFraction t) := by
  intro l r
  have hl : Constructed l := constructed_iff_proper.2 (by decide)
  have hr : Constructed r := constructed_iff_proper.2 (by decide)
  obtain ⟨divided, unsigned, -⟩ := evaluate_referenced hl hr .divide
  obtain ⟨-, -, defined⟩ := evaluate_referenced hl hr .multiply
  exact ⟨divided, by decide +kernel, unsigned, defined (by decide)⟩

theorem evaluate_divide_of_zero (hz : r.numerator = 0) :
    l.evaluate .divide r =
      if Fits (l.numerator * r.denominator) then .error (.overZero (l.numerator * r.denominator))
      else .error Step.division.overflow := by
  have hzero : Fits 0 := by decide
  rw [evaluate, divide_of_zero hz]
  simp [Operator.integers, hz, hzero, Step.checkAll_cons_bind, Step.checkAll_nil_bind]

/-- Dividing by zero is never answered. It is undefined where the numerator over zero is a component,
as over one it always is, and else an overflow. -/
theorem divide_zero (hl : Constructed l) (hz : r.numerator = 0) :
    (∀ v, l.evaluate .divide r ≠ .ok v) ∧
      (Fits (l.numerator * r.denominator) →
        l.evaluate .divide r = .error (.overZero (l.numerator * r.denominator))) ∧
      (¬Fits (l.numerator * r.denominator) →
        l.evaluate .divide r = .error Step.division.overflow) ∧
      (r.denominator = 1 → l.evaluate .divide r = .error (.overZero l.numerator)) := by
  rw [evaluate_divide_of_zero hz]
  refine ⟨?_, fun h => if_pos h, fun h => if_neg h, ?_⟩
  · intro v
    split_ifs <;> simp
  · intro h1
    rw [h1, Int.mul_one, if_pos hl.proper.1]

theorem divide_zero_either :
    evaluate ⟨-2147483648, 1⟩ .divide ⟨0, 3⟩ = .error Step.division.overflow ∧
      evaluate ⟨-2147483648, 1⟩ .divide ⟨0, 1⟩ = .error (.overZero (-2147483648)) := by
  have hl : Constructed ⟨-2147483648, 1⟩ := constructed_iff_proper.2 (by decide)
  exact ⟨(divide_zero (r := ⟨0, 3⟩) hl rfl).2.2.1 (by decide),
    (divide_zero (r := ⟨0, 1⟩) hl rfl).2.2.2 rfl⟩

theorem divide_zero_overflow :
    let l : Fraction := ⟨2147483647, 1⟩
    let r : Fraction := ⟨0, 2⟩
    Constructed l ∧ Constructed r ∧ r.numerator = 0 ∧
      l.evaluate .divide r = .error Step.division.overflow ∧
      ¬∃ t, l.evaluate .divide r = .error (.undefinedFraction t) := by
  intro l r
  have h : l.evaluate .divide r = .error Step.division.overflow := by decide +kernel
  refine ⟨constructed_iff_proper.2 (by decide), constructed_iff_proper.2 (by decide), rfl, h, ?_⟩
  intro hu
  obtain ⟨t, ht⟩ := hu
  cases h.symm.trans ht

end Fraction
end FractionCalculator
