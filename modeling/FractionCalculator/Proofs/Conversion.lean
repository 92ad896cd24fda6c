import FractionCalculator.Proofs.Symmetry

/-!
# Mixed numbers with any signs

A mixed number is converted on the magnitude of its whole part; the sign of the
whole part is given to the result, and over a negative denominator both components
are turned at the end. The integers of these two stages decide the outcome, and
the stage that has one out of range names the overflow. Whole part and fraction can
also be joined by an addition, or by a subtraction below zero. On the way it meets
other integers, yet it ends at the same pair; it only goes one step further, to the
least component, which has no text.
-/

namespace FractionCalculator

/-- The operation that joins a fraction to a whole part other than zero, away from zero. -/
def Operator.joining (w : Int) : Operator :=
  if 0 < w then .add else .subtract

namespace Fraction

variable {w n d : Int} {v : Fraction} {t : Text}

def turns (n d : Int) : List Int :=
  if d < 0 then [-n, -d] else []

theorem improper_neg (hw : w ≠ 0) (n d : Int) : improper (-w) n d = -improper w n d := by
  rw [improper_of_ne_zero hw, improper_of_ne_zero (neg_ne_zero.2 hw), Int.natAbs_neg, Int.sign_neg,
    neg_mul]

theorem ofPair_eq (n : Int) (hd : d ≠ 0) :
    ofPair n d =
      if ∀ m ∈ turns n d, Fits m then .ok ⟨d.sign * n, |d|⟩
      else .error Step.signNormalization.overflow := by
  rw [← Step.checkAll_map_bind _ _ fun _ => .ok (⟨d.sign * n, |d|⟩ : Fraction)]
  rcases Int.lt_or_gt_of_ne hd with hd | hd
  · simp only [ofPair, normalize, turns, if_neg hd.ne, if_neg hd.not_gt, if_pos hd,
      Int.sign_eq_neg_one_of_neg hd, neg_one_mul, abs_of_neg hd, List.map_cons, List.map_nil,
      Step.checked_bind, Step.checkAll_cons_bind, Step.checkAll_nil_bind]
    rfl
  · rw [ofPair_of_pos hd, Int.sign_eq_one_of_pos hd, abs_of_pos hd, one_mul, turns,
      if_neg hd.not_gt]
    rfl

/-- A mixed number is what its integers make of it, first those of the conversion. -/
theorem mixed_eq (w n : Int) (hd : d ≠ 0) :
    mixed w n d =
      if ∀ m ∈ conversions w n d, Fits m then
        if ∀ m ∈ turns (improper w n d) d, Fits m then .ok ⟨d.sign * improper w n d, |d|⟩
        else .error Step.signNormalization.overflow
      else .error Step.mixedConversion.overflow := by
  rw [mixed, if_neg hd, mixedNumerator_eq]
  split_ifs with hc ht
  · rw [ok_bind, ofPair_eq _ hd, if_pos ht]
  · rw [ok_bind, ofPair_eq _ hd, if_neg ht]
  · rfl

theorem mixed_eq_ok_iff_integers (hd : d ≠ 0) :
    mixed w n d = .ok v ↔ (∀ m ∈ conversions w n d, Fits m) ∧
      (∀ m ∈ turns (improper w n d) d, Fits m) ∧ v = ⟨d.sign * improper w n d, |d|⟩ := by
  rw [mixed_eq w n hd]
  split_ifs with hc ht
  · constructor
    · intro h
      exact ⟨hc, ht, (Except.ok.inj h).symm⟩
    · rintro ⟨-, -, rfl⟩
      rfl
  · exact ⟨nofun, fun h => absurd h.2.1 ht⟩
  · exact ⟨nofun, fun h => absurd h.1 hc⟩

/-- Whatever the signs of its components, a mixed number is undefined over zero only, fails only where
one of its integers is no component, and has the value that its components mean. -/
theorem mixed_signed (w n d : Int) :
    (mixed w n d = .error (.overZero n) ↔ d = 0) ∧
    (d ≠ 0 →
      ((∃ v, mixed w n d = .ok v) ↔
        (∀ m ∈ conversions w n d, Fits m) ∧ ∀ m ∈ turns (improper w n d) d, Fits m) ∧
      ((¬∀ m ∈ conversions w n d, Fits m) →
        mixed w n d = .error Step.mixedConversion.overflow) ∧
      ((∀ m ∈ conversions w n d, Fits m) → (¬∀ m ∈ turns (improper w n d) d, Fits m) →
        mixed w n d = .error Step.signNormalization.overflow)) ∧
    (∀ v, mixed w n d = .ok v → 0 < v.denominator ∧ v.denominator = |d| ∧
      (Operand.mixed w n d).Means v.toRat) ∧
    ∀ v v', w ≠ 0 → mixed w n d = .ok v → mixed (-w) n d = .ok v' → v' = -v := by
  refine ⟨⟨?_, ?_⟩, ?_, ?_, ?_⟩
  · intro h
    by_contra hd
    rw [mixed_eq w n hd] at h
    split_ifs at h <;> cases h
  · rintro rfl
    rfl
  · intro hd
    refine ⟨?_, ?_, ?_⟩
    · simp only [mixed_eq_ok_iff_integers hd, exists_and_left, exists_eq, and_true]
    · intro hc
      rw [mixed_eq w n hd, if_neg hc]
    · intro hc ht
      rw [mixed_eq w n hd, if_pos hc, if_neg ht]
  · intro v hv
    have hd := denominator_ne_zero_of_mixed hv
    have hm := means_of_mixed hv
    obtain ⟨-, -, rfl⟩ := (mixed_eq_ok_iff_integers hd).1 hv
    exact ⟨abs_pos.2 hd, rfl, hm⟩
  · intro v v' hw hv hv'
    have hd := denominator_ne_zero_of_mixed hv
    obtain ⟨-, -, rfl⟩ := (mixed_eq_ok_iff_integers hd).1 hv
    obtain ⟨-, -, rfl⟩ := (mixed_eq_ok_iff_integers hd).1 hv'
    rw [improper_neg hw, mul_neg, neg_mk]

theorem mixed_signed_least :
    mixed (-3) (-1) (-2) = .ok ⟨-7, 2⟩ ∧ (Operand.mixed (-3) (-1) (-2)).Means (toRat ⟨-7, 2⟩) ∧
      mixed 3 (-1) (-2) = .ok (-⟨-7, 2⟩) ∧
      mixed 1 0 (-2147483648) = .error Step.signNormalization.overflow ∧
      mixed (-1) 0 (-2147483648) = .error Step.mixedConversion.overflow := by
  have h : mixed (-3) (-1) (-2) = .ok ⟨-7, 2⟩ := by decide
  have h' : mixed 3 (-1) (-2) = .ok ⟨7, 2⟩ := by decide
  obtain ⟨-, -, value, negated⟩ := mixed_signed (-3) (-1) (-2)
  obtain ⟨-, turned, -, -⟩ := mixed_signed 1 0 (-2147483648)
  obtain ⟨-, converted, -, -⟩ := mixed_signed (-1) 0 (-2147483648)
  have hn := negated _ _ (by decide) h h'
  exact ⟨h, (value _ h).2.2, hn ▸ h', (turned (by decide)).2.2 (by decide) (by decide),
    (converted (by decide)).2.1 (by decide)⟩

/-! ## Joining a whole part and a fraction -/

theorem pair_joining (hw : w ≠ 0) (n d : Int) :
    (Operator.joining w).pair (whole w) ⟨n, d⟩ = ⟨improper w n d, d⟩ := by
  rw [improper_of_ne_zero hw, mul_add, ← mul_assoc, Int.sign_mul_natAbs]
  rcases Int.lt_or_gt_of_ne hw with hw | hw
  · simp [Operator.joining, Operator.pair, whole, hw.not_gt, Int.sign_eq_neg_one_of_neg hw,
      sub_eq_add_neg]
  · simp [Operator.joining, Operator.pair, whole, hw, Int.sign_eq_one_of_pos hw]

theorem fits_scaled (hw : w ≠ 0) (hn : 0 ≤ n) (hd : 0 < d) (h : Fits (improper w n d)) :
    Fits (w * d) := by
  rw [improper_of_ne_zero hw, mul_add, ← mul_assoc, Int.sign_mul_natAbs] at h
  rcases Int.lt_or_gt_of_ne hw with hw | hw
  · have hp : w * d < 0 := Int.mul_neg_of_neg_of_pos hw hd
    rw [Int.sign_eq_neg_one_of_neg hw] at h
    unfold Fits at *
    omega
  · have hp : 0 < w * d := Int.mul_pos hw hd
    rw [Int.sign_eq_one_of_pos hw] at h
    unfold Fits at *
    omega

theorem evaluate_joining_eq_ok_iff (hw : w ≠ 0) (hn : 0 ≤ n) (hn' : Fits n) (hd : 0 < d)
    (hd' : Fits d) : (whole w).evaluate (.joining w) ⟨n, d⟩ = .ok v ↔
      Fits (improper w n d) ∧ v = ⟨improper w n d, d⟩ := by
  have ho : Operator.joining w = .add ∨ Operator.joining w = .subtract := by
    unfold Operator.joining
    split_ifs <;> simp
  rw [scaled_eq_ok_iff ho (by simp [whole]) hd, pair_joining hw]
  constructor
  · rintro ⟨-, -, hv, -, rfl⟩
    exact ⟨hv, rfl⟩
  · rintro ⟨hv, rfl⟩
    exact ⟨fits_scaled hw hn hd hv, by simpa [whole] using hn', hv, hd', rfl⟩

theorem fits_improper_iff (hw : w ≠ 0) (hn : 0 ≤ n) (hd : 0 < d) :
    w.natAbs * d + n ≤ 2147483647 ↔
      Fits (improper w n d) ∧ improper w n d ≠ -2147483648 := by
  have hp : 0 < (w.natAbs : Int) * d := Int.mul_pos (by omega) hd
  rw [improper_of_ne_zero hw]
  unfold Fits
  rcases Int.lt_or_gt_of_ne hw with hw | hw
  · rw [Int.sign_eq_neg_one_of_neg hw]
    omega
  · rw [Int.sign_eq_one_of_pos hw]
    omega

theorem mixed_eq_ok_iff_joining (hw : w ≠ 0) (hn : 0 ≤ n) (hn' : Fits n) (hd : 0 < d)
    (hd' : Fits d) : mixed w n d = .ok v ↔
      (whole w).evaluate (.joining w) ⟨n, d⟩ = .ok v ∧ v.numerator ≠ -2147483648 := by
  rw [mixed_eq_ok_iff_of_nonneg hw hn hd, evaluate_joining_eq_ok_iff hw hn hn' hd hd',
    fits_improper_iff hw hn hd, ← improper_of_ne_zero hw]
  constructor
  · rintro ⟨⟨hf, hm⟩, rfl⟩
    exact ⟨⟨hf, rfl⟩, hm⟩
  · rintro ⟨⟨hf, rfl⟩, hm⟩
    exact ⟨⟨hf, hm⟩, rfl⟩

/-- A mixed number is its whole part and its fraction joined by an operation: the same pair where it is
converted, and the same text where either has one. -/
theorem mixed_joined (hw : Fits w) (hz : w ≠ 0) (hn : 0 ≤ n) (hn' : n ≤ 2147483647) (hd : 1 ≤ d)
    (hd' : d ≤ 2147483647) :
    (∀ t, (do text (← mixed w n d)) = .ok t ↔
      (do text (← (whole w).evaluate (.joining w) (← ofPair n d))) = .ok t) ∧
    ∀ v, mixed w n d = .ok v → (do (whole w).evaluate (.joining w) (← ofPair n d)) = .ok v := by
  have hfn : Fits n := ⟨by omega, hn'⟩
  have hfd : Fits d := ⟨by omega, hd'⟩
  have joined (v : Fraction) := mixed_eq_ok_iff_joining (v := v) hz hn hfn hd hfd
  rw [ofPair_of_pos hd]
  constructor
  · intro t
    have hp : Proper ⟨n, d⟩ := ⟨hfn, hfd, hd⟩
    rw [ok_bind, text_evaluate_eq_ok_iff (proper_whole hw) hp, bind_eq_ok_iff]
    refine exists_congr fun v => ?_
    constructor
    · rintro ⟨hv, ht⟩
      obtain ⟨hm, hx⟩ := (text_eq_ok_iff (proper_of_mixed hfn hfd hv)).1 ht
      exact ⟨((joined v).1 hv).1, hm, hx⟩
    · rintro ⟨hv, hm, hx⟩
      have hv' := (joined v).2 ⟨hv, hm⟩
      exact ⟨hv', (text_eq_ok_iff (proper_of_mixed hfn hfd hv')).2 ⟨hm, hx⟩⟩
  · intro v hv
    exact ((joined v).1 hv).1

theorem mixed_joined_least :
    mixed (-1073741823) 1 2 = .ok ⟨-2147483647, 2⟩ ∧
      (do (whole (-1073741823)).evaluate .subtract (← ofPair 1 2)) = .ok ⟨-2147483647, 2⟩ ∧
      (do text (← (whole (-1073741823)).evaluate .subtract (← ofPair 1 2))) =
        .ok "-1073741823_1/2".toList := by
  have h : mixed (-1073741823) 1 2 = .ok ⟨-2147483647, 2⟩ := by decide
  have ht : (do text (← mixed (-1073741823) 1 2)) = .ok "-1073741823_1/2".toList := by
    decide +kernel
  obtain ⟨written, same⟩ := mixed_joined (w := -1073741823) (n := 1) (d := 2) (by decide)
    (by decide) (by decide) (by decide) (by decide) (by decide)
  exact ⟨h, same _ h, (written _).1 ht⟩

example : mixed (-1073741823) 2 2 = .error Step.mixedConversion.overflow ∧
    (whole (-1073741823)).evaluate .subtract ⟨2, 2⟩ = .ok ⟨-2147483648, 2⟩ ∧
    text ⟨-2147483648, 2⟩ = .error Step.reduction.overflow := by
  decide +kernel

end Fraction
end FractionCalculator
