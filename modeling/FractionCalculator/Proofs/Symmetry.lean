import FractionCalculator.Proofs.Signs
import FractionCalculator.Proofs.Spelling

/-!
# The order of operands, and reciprocals

Sums and products do not depend on the order of their operands, not even in the
step at which they are rejected. The two differences of two fractions are
negatives of each other, and a quotient is the product with the reciprocal. The
least component has no negative, so that one of two such results may be the least
component where the other is an overflow; but the least component has no text,
and what is written is the same both ways.
-/

namespace FractionCalculator

theorem neg_ne_least {n : Int} (h : Fits n) : -n ≠ -2147483648 := by
  unfold Fits at h
  omega

/-- Two texts that a leading minus sets apart, or zero both. -/
def Opposite (t u : Text) : Prop :=
  t = ['0'] ∧ u = ['0'] ∨ u = '-' :: t ∨ t = '-' :: u

theorem canonicalText_neg_of_pos {x : ℚ} (h : 0 < x) :
    canonicalText (-x) = '-' :: canonicalText x := by
  have hn : 0 < x.num := Rat.num_pos.2 h
  simp only [canonicalText, Decimal.sign, Rat.neg_num, Rat.neg_den, Int.natAbs_neg, abs_neg,
    neg_eq_zero, if_neg h.ne', if_neg hn.not_gt, if_pos (neg_neg_of_pos hn)]
  split_ifs <;> rfl

theorem canonicalText_of_neg {x : ℚ} (h : x < 0) :
    canonicalText x = '-' :: canonicalText (-x) := by
  rw [← canonicalText_neg_of_pos (neg_pos.2 h), neg_neg]

theorem opposite_canonicalText (x : ℚ) : Opposite (canonicalText x) (canonicalText (-x)) := by
  rcases lt_trichotomy x 0 with h | rfl | h
  · exact Or.inr (Or.inr (canonicalText_of_neg h))
  · exact Or.inl ⟨rfl, rfl⟩
  · exact Or.inr (Or.inl (canonicalText_neg_of_pos h))

namespace Fraction

variable {f g l r v : Fraction}

theorem checkAll_integers_comm (l r : Fraction) {op : Operator}
    (h : op = .add ∨ op = .multiply) :
    Step.checkAll (op.integers l r) = Step.checkAll (op.integers r l) := by
  rcases h with rfl | rfl
  · -- The numerators are scaled in the order of the operands, both at the same step.
    simp only [Operator.integers]
    rw [mul_comm l.denominator, add_comm (l.numerator * r.denominator), Step.checkAll,
      Step.checkAll_swap, ← Step.checkAll]
  · simp only [Operator.integers, mul_comm]

theorem pair_comm (l r : Fraction) {op : Operator} (h : op = .add ∨ op = .multiply) :
    op.pair l r = op.pair r l := by
  rcases h with rfl | rfl
  · simp only [Operator.pair, mul_comm l.denominator, add_comm (l.numerator * r.denominator)]
  · simp only [Operator.pair, mul_comm]

theorem evaluate_comm (hl : 0 < l.denominator) (hr : 0 < r.denominator) {op : Operator}
    (h : op = .add ∨ op = .multiply) : l.evaluate op r = r.evaluate op l := by
  have hd : op ≠ .divide := by
    rcases h with rfl | rfl <;> decide
  rw [evaluate_eq hl hr, evaluate_eq hr hl, checkAll_integers_comm l r h, pair_comm l r h]
  simp only [hd, false_and, if_false]

theorem scaled_eq_ok_iff {op : Operator} (ho : op = .add ∨ op = .subtract)
    (hl : 0 < l.denominator) (hr : 0 < r.denominator) :
    l.evaluate op r = .ok v ↔
      Fits (l.numerator * r.denominator) ∧ Fits (r.numerator * l.denominator) ∧
        Fits v.numerator ∧ Fits v.denominator ∧ v = op.pair l r := by
  have hd : op ≠ .divide := by
    rcases ho with rfl | rfl <;> decide
  rw [evaluate_eq_ok_iff hl hr]
  constructor
  · intro h
    obtain ⟨hc, -, rfl⟩ := h
    have scaled (m : Int) (hm : (.commonDenominator, m) ∈ op.integers l r) : Fits m := hc _ hm
    refine ⟨scaled _ ?_, scaled _ ?_, (fits_pair hc).1, (fits_pair hc).2, rfl⟩
    · rcases ho with rfl | rfl <;> simp [Operator.integers]
    · rcases ho with rfl | rfl <;> simp [Operator.integers]
  · intro h
    obtain ⟨hl', hr', hn, hd', rfl⟩ := h
    refine ⟨?_, fun he => absurd he hd, rfl⟩
    rcases ho with rfl | rfl <;> simp_all [Operator.integers, Operator.pair]

theorem pair_subtract_swap (l r : Fraction) :
    Operator.subtract.pair r l = -Operator.subtract.pair l r := by
  simp [Operator.pair, neg_mk, mul_comm l.denominator]

theorem subtract_swap (hl : 0 < l.denominator) (hr : 0 < r.denominator)
    (h : l.evaluate .subtract r = .ok v) (hm : v.numerator ≠ -2147483648) :
    r.evaluate .subtract l = .ok (-v) := by
  obtain ⟨hl', hr', hn, hd, rfl⟩ := (scaled_eq_ok_iff (Or.inr rfl) hl hr).1 h
  rw [scaled_eq_ok_iff (Or.inr rfl) hr hl]
  exact ⟨hr', hl', (fits_neg_iff hn).2 hm, hd, (pair_subtract_swap l r).symm⟩

theorem toRat_neg (f : Fraction) : (-f).toRat = -f.toRat := by
  cases f
  simp [neg_mk, toRat, neg_div]

theorem text_subtract_swap (hl : l.Proper) (hr : r.Proper) {t : Text}
    (h : (do text (← l.evaluate .subtract r)) = .ok t) :
    ∃ u, (do text (← r.evaluate .subtract l)) = .ok u ∧ Opposite t u := by
  obtain ⟨v, hv, hm, rfl⟩ := (text_evaluate_eq_ok_iff hl hr).1 h
  have hp := proper_of_evaluate hl hr hv
  refine ⟨canonicalText (-v).toRat, (text_evaluate_eq_ok_iff hr hl).2 ?_, ?_⟩
  · exact ⟨-v, subtract_swap hl.2.2 hr.2.2 hv hm, neg_ne_least hp.1, rfl⟩
  · rw [toRat_neg]
    exact opposite_canonicalText v.toRat

/-- Sums and products do not depend on the order of their operands, and a difference can be written
where the difference the other way can, as its opposite. -/
theorem evaluate_swap (hl : Constructed l) (hr : Constructed r) :
    (∀ op, op = .add ∨ op = .multiply → l.evaluate op r = r.evaluate op l) ∧
    ((∃ t, (do text (← l.evaluate .subtract r)) = .ok t) ↔
      ∃ t, (do text (← r.evaluate .subtract l)) = .ok t) ∧
    ∀ t u, (do text (← l.evaluate .subtract r)) = .ok t →
      (do text (← r.evaluate .subtract l)) = .ok u → Opposite t u := by
  have hpl := hl.proper
  have hpr := hr.proper
  refine ⟨?_, ⟨?_, ?_⟩, ?_⟩
  · intro op h
    exact evaluate_comm hpl.2.2 hpr.2.2 h
  · intro h
    obtain ⟨t, ht⟩ := h
    obtain ⟨u, hu, -⟩ := text_subtract_swap hpl hpr ht
    exact ⟨u, hu⟩
  · intro h
    obtain ⟨t, ht⟩ := h
    obtain ⟨u, hu, -⟩ := text_subtract_swap hpr hpl ht
    exact ⟨u, hu⟩
  · intro t u ht hu
    obtain ⟨u', hu', ho⟩ := text_subtract_swap hpl hpr ht
    obtain rfl := Except.ok.inj (hu.symm.trans hu')
    exact ho

theorem evaluate_swap_boundary :
    let l : Fraction := ⟨-2147483647, 1⟩
    let r : Fraction := ⟨0, 1⟩
    (do text (← l.evaluate .subtract r)) = .ok "-2147483647".toList ∧
      (do text (← r.evaluate .subtract l)) = .ok "2147483647".toList ∧
      Opposite "-2147483647".toList "2147483647".toList ∧
      l.evaluate .add r = r.evaluate .add l := by
  intro l r
  have hl : Constructed l := constructed_iff_proper.2 (by decide)
  have hr : Constructed r := constructed_iff_proper.2 (by decide)
  have ht : (do text (← l.evaluate .subtract r)) = .ok "-2147483647".toList := by decide +kernel
  have hu : (do text (← r.evaluate .subtract l)) = .ok "2147483647".toList := by decide +kernel
  obtain ⟨order, -, difference⟩ := evaluate_swap hl hr
  exact ⟨ht, hu, difference _ _ ht hu, order .add (Or.inl rfl)⟩

example : evaluate ⟨-2147483648, 1⟩ .subtract ⟨0, 1⟩ = .ok ⟨-2147483648, 1⟩ ∧
    evaluate ⟨0, 1⟩ .subtract ⟨-2147483648, 1⟩ = .error Step.subtraction.overflow ∧
    text ⟨-2147483648, 1⟩ = .error Step.reduction.overflow := by
  decide +kernel

def reciprocal (f : Fraction) : Fraction :=
  if f.numerator < 0 then ⟨-f.denominator, -f.numerator⟩ else ⟨f.denominator, f.numerator⟩

theorem ofPair_swap_eq_ok_iff (hf : f.Proper) :
    ofPair f.denominator f.numerator = .ok g ↔
      f.numerator ≠ 0 ∧ f.numerator ≠ -2147483648 ∧ g = f.reciprocal := by
  obtain ⟨hn, hd, hp⟩ := hf
  have hd' : Fits (-f.denominator) := (fits_neg_iff hd).2 (by omega)
  rw [ofPair_eq_ok_iff, reciprocal]
  rcases Int.lt_trichotomy f.numerator 0 with h | h | h
  · simp [h, h.ne, h.not_gt, hd', fits_neg_iff hn]
  · simp [h]
  · have hm : f.numerator ≠ -2147483648 := by omega
    simp [h, h.ne', h.not_gt, hm]

theorem denominator_reciprocal_pos (h : f.numerator ≠ 0) : 0 < f.reciprocal.denominator := by
  unfold reciprocal
  split_ifs with hn
  · exact neg_pos.2 hn
  · dsimp only
    omega

theorem pair_multiply_reciprocal (l r : Fraction) :
    Operator.multiply.pair l r.reciprocal = Operator.divide.pair l r := by
  by_cases hn : r.numerator < 0
  · simp [Operator.pair, reciprocal, hn]
  · simp [Operator.pair, reciprocal, hn]

theorem multiply_eq_ok_iff (hl : 0 < l.denominator) (hr : 0 < r.denominator) :
    l.evaluate .multiply r = .ok v ↔
      Fits v.numerator ∧ Fits v.denominator ∧ v = Operator.multiply.pair l r := by
  rw [evaluate_eq_ok_iff hl hr]
  constructor
  · intro h
    obtain ⟨hc, -, rfl⟩ := h
    exact ⟨(fits_pair hc).1, (fits_pair hc).2, rfl⟩
  · intro h
    obtain ⟨hn, hd, rfl⟩ := h
    refine ⟨?_, by simp, rfl⟩
    simpa [Operator.integers, Operator.pair] using And.intro hn hd

/-- A division answers its pair where both components are in range. A negative divisor turns the
signs of both products, so that the numerator must have a negative as well. -/
theorem divide_eq_ok_iff (hl : 0 < l.denominator) (hr : 0 < r.denominator) :
    l.evaluate .divide r = .ok v ↔ r.numerator ≠ 0 ∧ Fits v.numerator ∧ Fits v.denominator ∧
      (r.numerator < 0 → v.numerator ≠ -2147483648) ∧ v = Operator.divide.pair l r := by
  rw [evaluate_eq_ok_iff hl hr]
  constructor
  · intro h
    obtain ⟨hc, hz, rfl⟩ := h
    refine ⟨hz rfl, (fits_pair hc).1, (fits_pair hc).2, ?_, rfl⟩
    intro hneg
    simp only [Operator.pair, if_pos hneg]
    exact neg_ne_least (hc (.division, _) (by simp [Operator.integers]))
  · intro h
    obtain ⟨hz, hn, hd, hm, rfl⟩ := h
    refine ⟨?_, fun _ => hz, rfl⟩
    by_cases hneg : r.numerator < 0
    · have hden : l.denominator * r.numerator < 0 := Int.mul_neg_of_pos_of_neg hl hneg
      simp only [Operator.pair, if_pos hneg] at hn hd hm
      have hn' := (fits_neg_iff hn).2 (hm hneg)
      have hd' := (fits_neg_iff hd).2 (by omega)
      rw [neg_neg] at hn' hd'
      simp [Operator.integers, hneg, hn, hd, hn', hd']
    · simp only [Operator.pair, if_neg hneg] at hn hd
      simp [Operator.integers, hneg, hn, hd]

theorem divide_eq_ok_iff_multiply (hl : l.Proper) (hr : r.Proper) :
    l.evaluate .divide r = .ok v ↔
      (∃ s, ofPair r.denominator r.numerator = .ok s ∧ l.evaluate .multiply s = .ok v) ∧
        (r.numerator < 0 → v.numerator ≠ -2147483648) := by
  simp only [ofPair_swap_eq_ok_iff hr, divide_eq_ok_iff hl.2.2 hr.2.2]
  constructor
  · intro h
    obtain ⟨hz, hn, hd, hm, rfl⟩ := h
    refine ⟨⟨r.reciprocal, ⟨hz, ?_, rfl⟩, ?_⟩, hm⟩
    · intro hleast
      have hneg : r.numerator < 0 := by omega
      have hp := hl.2.2
      simp only [Operator.pair, if_pos hneg, Fits] at hd
      rw [hleast] at hd
      omega
    · exact (multiply_eq_ok_iff hl.2.2 (denominator_reciprocal_pos hz)).2
        ⟨hn, hd, (pair_multiply_reciprocal l r).symm⟩
  · intro h
    obtain ⟨⟨s, ⟨hz, -, rfl⟩, hv⟩, hm⟩ := h
    obtain ⟨hn, hd, rfl⟩ := (multiply_eq_ok_iff hl.2.2 (denominator_reciprocal_pos hz)).1 hv
    exact ⟨hz, hn, hd, hm, pair_multiply_reciprocal l r⟩

theorem text_divide_eq_ok_iff (hl : l.Proper) (hr : r.Proper) {t : Text} :
    (do text (← l.evaluate .divide r)) = .ok t ↔
      (do text (← l.evaluate .multiply (← ofPair r.denominator r.numerator))) = .ok t := by
  rw [text_evaluate_eq_ok_iff hl hr, bind_eq_ok_iff]
  constructor
  · intro h
    obtain ⟨v, hv, hm, hx⟩ := h
    obtain ⟨⟨s, hs, hsv⟩, -⟩ := (divide_eq_ok_iff_multiply hl hr).1 hv
    have hp := proper_of_ofPair hr.2.1 hr.1 hs
    exact ⟨s, hs, (text_evaluate_eq_ok_iff hl hp).2 ⟨v, hsv, hm, hx⟩⟩
  · intro h
    obtain ⟨s, hs, ht⟩ := h
    have hp := proper_of_ofPair hr.2.1 hr.1 hs
    obtain ⟨v, hsv, hm, hx⟩ := (text_evaluate_eq_ok_iff hl hp).1 ht
    exact ⟨v, (divide_eq_ok_iff_multiply hl hr).2 ⟨⟨s, hs, hsv⟩, fun _ => hm⟩, hm, hx⟩

/-- Dividing is multiplying by the reciprocal, wherever one of them can be written. -/
theorem divide_reciprocal (hl : Constructed l) (hr : Constructed r) :
    (∀ v, l.evaluate .divide r = .ok v →
      ∃ s, ofPair r.denominator r.numerator = .ok s ∧ l.evaluate .multiply s = .ok v) ∧
    (∀ s v, ofPair r.denominator r.numerator = .ok s → l.evaluate .multiply s = .ok v →
      v.numerator ≠ -2147483648 → l.evaluate .divide r = .ok v) ∧
    ∀ t, (do text (← l.evaluate .divide r)) = .ok t ↔
      (do text (← l.evaluate .multiply (← ofPair r.denominator r.numerator))) = .ok t := by
  have hpl := hl.proper
  have hpr := hr.proper
  refine ⟨?_, ?_, ?_⟩
  · intro v hv
    exact ((divide_eq_ok_iff_multiply hpl hpr).1 hv).1
  · intro s v hs hv hm
    exact (divide_eq_ok_iff_multiply hpl hpr).2 ⟨⟨s, hs, hv⟩, fun _ => hm⟩
  · intro t
    exact text_divide_eq_ok_iff hpl hpr

theorem divide_reciprocal_negative :
    let l : Fraction := ⟨3, 4⟩
    let r : Fraction := ⟨-6, 5⟩
    l.evaluate .divide r = .ok ⟨-15, 24⟩ ∧
      (∃ s, ofPair r.denominator r.numerator = .ok s ∧ l.evaluate .multiply s = .ok ⟨-15, 24⟩) ∧
      (do text (← l.evaluate .multiply (← ofPair r.denominator r.numerator))) =
        .ok "-5/8".toList := by
  intro l r
  have hl : Constructed l := constructed_iff_proper.2 (by decide)
  have hr : Constructed r := constructed_iff_proper.2 (by decide)
  have h : l.evaluate .divide r = .ok ⟨-15, 24⟩ := by decide +kernel
  have ht : (do text (← l.evaluate .divide r)) = .ok "-5/8".toList := by decide +kernel
  obtain ⟨product, -, written⟩ := divide_reciprocal hl hr
  exact ⟨h, product _ h, (written _).1 ht⟩

example : evaluate ⟨1073741824, 1⟩ .multiply ⟨-2, 1⟩ = .ok ⟨-2147483648, 1⟩ ∧
    evaluate ⟨1073741824, 1⟩ .divide ⟨-1, 2⟩ = .error Step.division.overflow := by
  decide +kernel

end Fraction
end FractionCalculator
