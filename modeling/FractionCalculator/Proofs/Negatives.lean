import FractionCalculator.Proofs.Symmetry

/-!
# The rule of signs

A product or a quotient turns into its negative when one of its operands does,
whichever of the two. A negative divisor makes a division negate both of its
products, which a positive one does not, and the least component has no negative;
but a pair with the least component has no text, and what can be written can be
written for both signs.
-/

namespace FractionCalculator.Fraction

variable {f l r v : Fraction} {op : Operator} {t : Text}

theorem Proper.neg (h : f.Proper) (hm : f.numerator ≠ -2147483648) : (-f).Proper :=
  ⟨(fits_neg_iff h.1).2 hm, h.2⟩

theorem pair_neg_left (l r : Fraction) (ho : op = .multiply ∨ op = .divide) :
    op.pair (-l) r = -op.pair l r := by
  rcases ho with rfl | rfl
  · simp [Operator.pair, neg_mk]
  · by_cases hn : r.numerator < 0
    · simp [Operator.pair, neg_mk, hn]
    · simp [Operator.pair, neg_mk, hn]

theorem pair_neg_right (l : Fraction) (ho : op = .multiply ∨ op = .divide)
    (hz : op = .divide → r.numerator ≠ 0) : op.pair l (-r) = -op.pair l r := by
  rcases ho with rfl | rfl
  · simp [Operator.pair, neg_mk]
  · rcases Int.lt_or_gt_of_ne (hz rfl) with hn | hn
    · simp [Operator.pair, neg_mk, hn, hn.le]
    · simp [Operator.pair, neg_mk, hn, hn.not_gt]

theorem evaluate_eq_ok_iff_of_ne_least (ho : op = .multiply ∨ op = .divide)
    (hl : 0 < l.denominator) (hr : 0 < r.denominator) (hm : v.numerator ≠ -2147483648) :
    l.evaluate op r = .ok v ↔ (op = .divide → r.numerator ≠ 0) ∧ Fits v.numerator ∧
      Fits v.denominator ∧ v = op.pair l r := by
  rcases ho with rfl | rfl
  · rw [multiply_eq_ok_iff hl hr]
    simp
  · rw [divide_eq_ok_iff hl hr]
    simp [hm]

theorem evaluate_neg_left (ho : op = .multiply ∨ op = .divide) (hl : 0 < l.denominator)
    (hr : 0 < r.denominator) (h : l.evaluate op r = .ok v) (hm : v.numerator ≠ -2147483648) :
    (-l).evaluate op r = .ok (-v) := by
  obtain ⟨hz, hn, hd, rfl⟩ := (evaluate_eq_ok_iff_of_ne_least ho hl hr hm).1 h
  apply (evaluate_eq_ok_iff_of_ne_least (l := -l) ho hl hr (neg_ne_least hn)).2
  exact ⟨hz, (fits_neg_iff hn).2 hm, hd, (pair_neg_left l r ho).symm⟩

theorem evaluate_neg_right (ho : op = .multiply ∨ op = .divide) (hl : 0 < l.denominator)
    (hr : 0 < r.denominator) (h : l.evaluate op r = .ok v) (hm : v.numerator ≠ -2147483648) :
    l.evaluate op (-r) = .ok (-v) := by
  obtain ⟨hz, hn, hd, rfl⟩ := (evaluate_eq_ok_iff_of_ne_least ho hl hr hm).1 h
  apply (evaluate_eq_ok_iff_of_ne_least (r := -r) ho hl hr (neg_ne_least hn)).2
  exact ⟨fun h => neg_ne_zero.2 (hz h), (fits_neg_iff hn).2 hm, hd, (pair_neg_right l ho hz).symm⟩

theorem text_evaluate_neg (ho : op = .multiply ∨ op = .divide) (hl : l.Proper) (hr : r.Proper)
    (hml : l.numerator ≠ -2147483648) (hmr : r.numerator ≠ -2147483648)
    (h : (do text (← l.evaluate op r)) = .ok t) :
    ∃ u, (do text (← (-l).evaluate op r)) = .ok u ∧ (do text (← l.evaluate op (-r))) = .ok u ∧
      Opposite t u := by
  obtain ⟨v, hv, hm, rfl⟩ := (text_evaluate_eq_ok_iff hl hr).1 h
  have hv' := neg_ne_least (proper_of_evaluate hl hr hv).1
  refine ⟨canonicalText (-v).toRat, ?_, ?_, ?_⟩
  · apply (text_evaluate_eq_ok_iff (hl.neg hml) hr).2
    exact ⟨-v, evaluate_neg_left ho hl.2.2 hr.2.2 hv hm, hv', rfl⟩
  · apply (text_evaluate_eq_ok_iff hl (hr.neg hmr)).2
    exact ⟨-v, evaluate_neg_right ho hl.2.2 hr.2.2 hv hm, hv', rfl⟩
  · rw [toRat_neg]
    exact opposite_canonicalText v.toRat

/-- Turning the sign of one operand of a product or a quotient turns the sign of the answer. -/
theorem evaluate_signs (hl : Constructed l) (hr : Constructed r)
    (hml : l.numerator ≠ -2147483648) (hmr : r.numerator ≠ -2147483648)
    (ho : op = .multiply ∨ op = .divide) :
    ((∃ t, (do text (← l.evaluate op r)) = .ok t) ↔
      ∃ t, (do text (← (-l).evaluate op r)) = .ok t) ∧
    ((∃ t, (do text (← l.evaluate op r)) = .ok t) ↔
      ∃ t, (do text (← l.evaluate op (-r))) = .ok t) ∧
    ∀ t, (do text (← l.evaluate op r)) = .ok t →
      ∃ u, (do text (← (-l).evaluate op r)) = .ok u ∧ (do text (← l.evaluate op (-r))) = .ok u ∧
        Opposite t u := by
  have hpl := hl.proper
  have hpr := hr.proper
  refine ⟨⟨?_, ?_⟩, ⟨?_, ?_⟩, ?_⟩
  · rintro ⟨t, ht⟩
    obtain ⟨u, hu, -⟩ := text_evaluate_neg ho hpl hpr hml hmr ht
    exact ⟨u, hu⟩
  · rintro ⟨t, ht⟩
    obtain ⟨u, hu, -⟩ := text_evaluate_neg ho (hpl.neg hml) hpr (neg_ne_least hpl.1) hmr ht
    rw [neg_neg] at hu
    exact ⟨u, hu⟩
  · rintro ⟨t, ht⟩
    obtain ⟨u, -, hu, -⟩ := text_evaluate_neg ho hpl hpr hml hmr ht
    exact ⟨u, hu⟩
  · rintro ⟨t, ht⟩
    obtain ⟨u, -, hu, -⟩ := text_evaluate_neg ho hpl (hpr.neg hmr) hml (neg_ne_least hpr.1) ht
    rw [neg_neg] at hu
    exact ⟨u, hu⟩
  · intro t ht
    exact text_evaluate_neg ho hpl hpr hml hmr ht

theorem evaluate_signs_boundary :
    let l : Fraction := ⟨-2147483647, 2⟩
    let r : Fraction := ⟨-1, 1⟩
    (do text (← l.evaluate .divide r)) = .ok "1073741823_1/2".toList ∧
      (∃ t, (do text (← (-l).evaluate .divide r)) = .ok t) ∧
      (∃ t, (do text (← l.evaluate .divide (-r))) = .ok t) ∧
      ∃ u, (do text (← (-l).evaluate .divide r)) = .ok u ∧
        (do text (← l.evaluate .divide (-r))) = .ok u ∧ Opposite "1073741823_1/2".toList u := by
  intro l r
  have hl : Constructed l := constructed_iff_proper.2 (by decide)
  have hr : Constructed r := constructed_iff_proper.2 (by decide)
  have ht : (do text (← l.evaluate .divide r)) = .ok "1073741823_1/2".toList := by decide +kernel
  obtain ⟨left, right, signs⟩ := evaluate_signs hl hr (by decide) (by decide) (Or.inr rfl)
  exact ⟨ht, left.1 ⟨_, ht⟩, right.1 ⟨_, ht⟩, signs _ ht⟩

example : evaluate ⟨65536, 1⟩ .multiply ⟨-32768, 1⟩ = .ok ⟨-2147483648, 1⟩ ∧
    text ⟨-2147483648, 1⟩ = .error Step.reduction.overflow ∧
    evaluate ⟨65536, 1⟩ .multiply ⟨32768, 1⟩ = .error Step.multiplication.overflow := by
  decide +kernel

end FractionCalculator.Fraction
