import FractionCalculator.Fraction.Arithmetic
import FractionCalculator.Proofs.Rational

/-!
# The integers of an operation

An operation computes its integers in a fixed order, stops at the first that is
no component and else makes its pair of them: nothing beside these integers is
checked, and only a zero divisor is refused after them. The pair stands for the
exact value. Multiplying both operands multiplies every integer of the operation
by one factor, so an operation that succeeds on multiples succeeds on the pairs
they are multiples of.
-/

namespace FractionCalculator

namespace Operator

def integers (l r : Fraction) : Operator → List (Step × Int)
  | .add =>
    [(.commonDenominator, l.denominator * r.denominator),
      (.commonDenominator, l.numerator * r.denominator),
      (.commonDenominator, r.numerator * l.denominator),
      (.addition, l.numerator * r.denominator + r.numerator * l.denominator)]
  | .subtract =>
    [(.commonDenominator, l.denominator * r.denominator),
      (.commonDenominator, l.numerator * r.denominator),
      (.commonDenominator, r.numerator * l.denominator),
      (.subtraction, l.numerator * r.denominator - r.numerator * l.denominator)]
  | .multiply =>
    [(.multiplication, l.numerator * r.numerator),
      (.multiplication, l.denominator * r.denominator)]
  | .divide =>
    [(.division, l.numerator * r.denominator), (.division, l.denominator * r.numerator)] ++
      if r.numerator < 0 then
        [(.division, -(l.numerator * r.denominator)), (.division, -(l.denominator * r.numerator))]
      else []

def pair (l r : Fraction) : Operator → Fraction
  | .add =>
    ⟨l.numerator * r.denominator + r.numerator * l.denominator, l.denominator * r.denominator⟩
  | .subtract =>
    ⟨l.numerator * r.denominator - r.numerator * l.denominator, l.denominator * r.denominator⟩
  | .multiply => ⟨l.numerator * r.numerator, l.denominator * r.denominator⟩
  | .divide =>
    if r.numerator < 0 then ⟨-(l.numerator * r.denominator), -(l.denominator * r.numerator)⟩
    else ⟨l.numerator * r.denominator, l.denominator * r.numerator⟩

def value? : Operator → ℚ → ℚ → Option ℚ
  | .add, x, y => some (x + y)
  | .subtract, x, y => some (x - y)
  | .multiply, x, y => some (x * y)
  | .divide, x, y => if y = 0 then none else some (x / y)

end Operator

namespace Fraction

variable {l r v : Fraction}

theorem commonDenominator_bind {α : Type} (hl : 0 < l.denominator) (hr : 0 < r.denominator)
    (f : Fraction × Fraction → Except Rejection α) :
    (commonDenominator l r >>= f) = (do
      Step.checkAll [(.commonDenominator, l.denominator * r.denominator),
        (.commonDenominator, l.numerator * r.denominator),
        (.commonDenominator, r.numerator * l.denominator)]
      f (⟨l.numerator * r.denominator, l.denominator * r.denominator⟩,
        ⟨r.numerator * l.denominator, l.denominator * r.denominator⟩)) := by
  have hd : 0 < l.denominator * r.denominator := Int.mul_pos hl hr
  simp only [commonDenominator, Step.checked_bind, Step.checkAll_cons_bind,
    Step.checkAll_nil_bind, ofPair_of_pos hd, ok_bind]
  split_ifs <;> rfl

theorem divide_of_neg (hl : 0 < l.denominator) (hr : r.numerator < 0) :
    l.divide r = (do
      Step.checkAll (Operator.divide.integers l r)
      .ok (Operator.divide.pair l r)) := by
  have hd : 0 < -(l.denominator * r.numerator) := by nlinarith
  simp only [divide, Operator.integers, Operator.pair, if_pos hr, List.cons_append, List.nil_append,
    Step.checked_bind, Step.checkAll_cons_bind, Step.checkAll_nil_bind, ofPair_of_pos hd]

theorem divide_of_pos (hl : 0 < l.denominator) (hr : 0 < r.numerator) :
    l.divide r = (do
      Step.checkAll (Operator.divide.integers l r)
      .ok (Operator.divide.pair l r)) := by
  have hd : 0 < l.denominator * r.numerator := Int.mul_pos hl hr
  simp only [divide, Operator.integers, Operator.pair, if_neg hr.not_gt, List.append_nil,
    Step.checked_bind, Step.checkAll_cons_bind, Step.checkAll_nil_bind, ofPair_of_pos hd]

theorem divide_of_zero (hr : r.numerator = 0) :
    l.divide r = (do
      Step.checkAll (Operator.divide.integers l r)
      .error (.overZero (l.numerator * r.denominator))) := by
  have hf : ¬r.numerator < 0 := by omega
  simp only [divide, Operator.integers, if_neg hf, List.append_nil, Step.checked_bind,
    Step.checkAll_cons_bind, Step.checkAll_nil_bind]
  simp only [hr, Int.mul_zero, ofPair, normalize, if_true]

theorem evaluate_eq (hl : 0 < l.denominator) (hr : 0 < r.denominator) (op : Operator) :
    l.evaluate op r = (do
      Step.checkAll (op.integers l r)
      if op = .divide ∧ r.numerator = 0 then
        .error (.overZero (l.numerator * r.denominator))
      else .ok (op.pair l r)) := by
  have hd : 0 < l.denominator * r.denominator := Int.mul_pos hl hr
  cases op with
  | add =>
    simp [evaluate, add, commonDenominator_bind hl hr, Step.checked_bind, Operator.integers,
      Operator.pair, Step.checkAll_cons_bind, Step.checkAll_nil_bind, ofPair_of_pos hd]
  | subtract =>
    simp [evaluate, subtract, commonDenominator_bind hl hr, Step.checked_bind, Operator.integers,
      Operator.pair, Step.checkAll_cons_bind, Step.checkAll_nil_bind, ofPair_of_pos hd]
  | multiply =>
    simp [evaluate, multiply, Step.checked_bind, Operator.integers, Operator.pair,
      Step.checkAll_cons_bind, Step.checkAll_nil_bind, ofPair_of_pos hd]
  | divide =>
    rcases Int.lt_trichotomy r.numerator 0 with hn | hn | hn
    · simp [evaluate, divide_of_neg hl hn, hn.ne]
    · simp [evaluate, divide_of_zero hn, hn]
    · simp [evaluate, divide_of_pos hl hn, hn.ne']

theorem evaluate_eq_ok_iff (hl : 0 < l.denominator) (hr : 0 < r.denominator) {op : Operator} :
    l.evaluate op r = .ok v ↔
      (∀ c ∈ op.integers l r, Fits c.2) ∧ (op = .divide → r.numerator ≠ 0) ∧ v = op.pair l r := by
  rw [evaluate_eq hl hr, bind_eq_ok_iff, ← Step.checkAll_eq_ok_iff]
  split_ifs with hz
  · simp [hz.1, hz.2]
  · rw [not_and] at hz
    constructor
    · intro h
      obtain ⟨_, hc, hv⟩ := h
      exact ⟨hc, hz, (Except.ok.inj hv).symm⟩
    · intro h
      obtain ⟨hc, -, rfl⟩ := h
      exact ⟨(), hc, rfl⟩

theorem denominator_pair_pos (hl : 0 < l.denominator) (hr : 0 < r.denominator) {op : Operator}
    (hz : op = .divide → r.numerator ≠ 0) : 0 < (op.pair l r).denominator := by
  have hd : 0 < l.denominator * r.denominator := Int.mul_pos hl hr
  cases op with
  | add => exact hd
  | subtract => exact hd
  | multiply => exact hd
  | divide =>
    rcases Int.lt_or_gt_of_ne (hz rfl) with hn | hn
    · simp only [Operator.pair, if_pos hn]
      nlinarith
    · simp only [Operator.pair, if_neg hn.not_gt]
      exact Int.mul_pos hl hn

theorem fits_pair {op : Operator} (h : ∀ c ∈ op.integers l r, Fits c.2) :
    Fits (op.pair l r).numerator ∧ Fits (op.pair l r).denominator := by
  cases op with
  | add => exact ⟨h (.addition, _) (by simp [Operator.integers, Operator.pair]),
      h (.commonDenominator, _) (by simp [Operator.integers, Operator.pair])⟩
  | subtract => exact ⟨h (.subtraction, _) (by simp [Operator.integers, Operator.pair]),
      h (.commonDenominator, _) (by simp [Operator.integers, Operator.pair])⟩
  | multiply => exact ⟨h (.multiplication, _) (by simp [Operator.integers, Operator.pair]),
      h (.multiplication, _) (by simp [Operator.integers, Operator.pair])⟩
  | divide =>
    by_cases hn : r.numerator < 0
    · exact ⟨h (.division, _) (by simp [Operator.integers, Operator.pair, hn]),
        h (.division, _) (by simp [Operator.integers, Operator.pair, hn])⟩
    · exact ⟨h (.division, _) (by simp [Operator.integers, Operator.pair, hn]),
        h (.division, _) (by simp [Operator.integers, Operator.pair, hn])⟩

theorem proper_of_evaluate (hl : l.Proper) (hr : r.Proper) {op : Operator}
    (h : l.evaluate op r = .ok v) : v.Proper := by
  obtain ⟨hc, hz, rfl⟩ := (evaluate_eq_ok_iff hl.2.2 hr.2.2).1 h
  obtain ⟨hn, hd⟩ := fits_pair hc
  exact ⟨hn, hd, denominator_pair_pos hl.2.2 hr.2.2 hz⟩

theorem value?_toRat (hl : 0 < l.denominator) (hr : 0 < r.denominator) {op : Operator}
    (hz : op = .divide → r.numerator ≠ 0) :
    op.value? l.toRat r.toRat = some (op.pair l r).toRat := by
  have hl' : (l.denominator : ℚ) ≠ 0 := by exact_mod_cast hl.ne'
  have hr' : (r.denominator : ℚ) ≠ 0 := by exact_mod_cast hr.ne'
  cases op with
  | add => simp [Operator.value?, Operator.pair, toRat, div_add_div _ _ hl' hr', mul_comm]
  | subtract => simp [Operator.value?, Operator.pair, toRat, div_sub_div _ _ hl' hr', mul_comm]
  | multiply => simp [Operator.value?, Operator.pair, toRat, div_mul_div_comm]
  | divide =>
    have h0 : r.toRat ≠ 0 := (toRat_eq_zero_iff hr).not.2 (hz rfl)
    rw [Operator.value?, if_neg h0]
    by_cases hn : r.numerator < 0
    · simp [Operator.pair, hn, toRat, div_div_div_eq, neg_div_neg_eq]
    · simp [Operator.pair, hn, toRat, div_div_div_eq]

theorem value?_of_evaluate (hl : l.Proper) (hr : r.Proper) {op : Operator}
    (h : l.evaluate op r = .ok v) : op.value? l.toRat r.toRat = some v.toRat := by
  obtain ⟨-, hz, rfl⟩ := (evaluate_eq_ok_iff hl.2.2 hr.2.2).1 h
  exact value?_toRat hl.2.2 hr.2.2 hz

theorem scale_mul_scale (k m a b : Int) : m * a * (k * b) = k * m * (a * b) := by
  rw [mul_mul_mul_comm, mul_comm m k]

theorem scale_neg_iff {m a : Int} (hm : 0 < m) : m * a < 0 ↔ a < 0 := by
  constructor <;> intro h <;> nlinarith

theorem integers_scale {k m : Int} (hm : 0 < m) (op : Operator) :
    op.integers (l.scale k) (r.scale m) =
      (op.integers l r).map fun c => (c.1, k * m * c.2) := by
  cases op with
  | add => simp [Operator.integers, scale, mul_mul_mul_comm k _ m, scale_mul_scale k m, mul_add]
  | subtract => simp [Operator.integers, scale, mul_mul_mul_comm k _ m, scale_mul_scale k m, mul_sub]
  | multiply => simp [Operator.integers, scale, mul_mul_mul_comm k _ m]
  | divide =>
    by_cases hn : r.numerator < 0
    · have hm' : m * r.numerator < 0 := (scale_neg_iff hm).2 hn
      simp [Operator.integers, scale, mul_mul_mul_comm k _ m, hn, hm']
    · have hm' : ¬m * r.numerator < 0 := (scale_neg_iff hm).not.2 hn
      simp [Operator.integers, scale, mul_mul_mul_comm k _ m, hn, hm']

theorem pair_scale {k m : Int} (hm : 0 < m) (op : Operator) :
    op.pair (l.scale k) (r.scale m) = (op.pair l r).scale (k * m) := by
  cases op with
  | add => simp [Operator.pair, scale, mul_mul_mul_comm k _ m, scale_mul_scale k m, mul_add]
  | subtract => simp [Operator.pair, scale, mul_mul_mul_comm k _ m, scale_mul_scale k m, mul_sub]
  | multiply => simp [Operator.pair, scale, mul_mul_mul_comm k _ m]
  | divide =>
    by_cases hn : r.numerator < 0
    · have hm' : m * r.numerator < 0 := (scale_neg_iff hm).2 hn
      simp [Operator.pair, scale, mul_mul_mul_comm k _ m, hn, hm']
    · have hm' : ¬m * r.numerator < 0 := (scale_neg_iff hm).not.2 hn
      simp [Operator.pair, scale, mul_mul_mul_comm k _ m, hn, hm']

/-- An operation that succeeds on positive multiples succeeds on what they are multiples of, and
its value there is multiplied by both factors. -/
theorem evaluate_of_scale {k m : Int} (hk : 0 < k) (hm : 0 < m) (hl : 0 < l.denominator)
    (hr : 0 < r.denominator) {op : Operator} (h : (l.scale k).evaluate op (r.scale m) = .ok v) :
    ∃ u, l.evaluate op r = .ok u ∧ v = u.scale (k * m) := by
  have hkm : 0 < k * m := Int.mul_pos hk hm
  obtain ⟨hc, hz, rfl⟩ :=
    (evaluate_eq_ok_iff (Int.mul_pos hk hl) (Int.mul_pos hm hr)).1 h
  refine ⟨op.pair l r, (evaluate_eq_ok_iff hl hr).2 ⟨?_, ?_, rfl⟩, pair_scale hm op⟩
  · intro c hcm
    rw [integers_scale hm] at hc
    exact fits_of_fits_mul hkm (hc _ (List.mem_map_of_mem hcm))
  · intro ho hn
    exact hz ho (by simp [scale, hn])

end Fraction

/-- The fractions that operands and operations give. -/
inductive Constructed : Fraction → Prop where
  | given {o : Operand} {f : Fraction} (hb : o.Bounded) (h : o.value = .ok f) : Constructed f
  | evaluated {l r v : Fraction} {op : Operator} (hl : Constructed l) (hr : Constructed r)
    (h : l.evaluate op r = .ok v) : Constructed v

theorem Constructed.proper {f : Fraction} (h : Constructed f) : f.Proper := by
  induction h with
  | given hb h => exact (Operand.spec_of_value hb h).1
  | evaluated _ _ h ihl ihr => exact Fraction.proper_of_evaluate ihl ihr h

theorem constructed_iff_proper {f : Fraction} : Constructed f ↔ f.Proper := by
  constructor
  · exact Constructed.proper
  · intro h
    obtain ⟨hn, hd, hp⟩ := h
    exact .given (o := .fraction f.numerator f.denominator) ⟨hn, hd⟩ (Fraction.ofPair_of_pos hp)

end FractionCalculator
