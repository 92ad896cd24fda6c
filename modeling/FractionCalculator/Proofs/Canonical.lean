import FractionCalculator.Fraction.Canonical
import FractionCalculator.Proofs.Rational
import Mathlib.Algebra.Order.Ring.Rat
import Mathlib.Tactic.Linarith

/-!
# Lowest terms and canonical text

Reducing a proper fraction gives the pair of its number in lowest terms, and its
text is the canonical text of that number; both are refused for one numerator
only, the least component, whose magnitude is no component. The text is thus a
function of the number: it does not show which multiple of the lowest terms was
written.
-/

namespace FractionCalculator

theorem gcd_eq (a b : Nat) : gcd a b = Nat.gcd a b := by
  fun_induction gcd a b with
  | case1 a => simp
  | case2 a b hb ih => rw [ih, Nat.gcd_comm b, ← Nat.gcd_rec, Nat.gcd_comm]

def Decimal.sign (n : Int) : Text :=
  if n < 0 then ['-'] else []

/-- The canonical text of a number: its integral part, then what remains of the numerator over the
denominator. -/
def canonicalText (x : ℚ) : Text :=
  let n := x.num.natAbs
  let d := x.den
  if x = 0 then ['0']
  else if d = 1 then Decimal.sign x.num ++ Decimal.ofNat n
  else if |x| < 1 then Decimal.sign x.num ++ Decimal.ofNat n ++ '/' :: Decimal.ofNat d
  else
    Decimal.sign x.num ++ Decimal.ofNat (n / d) ++ '_' :: Decimal.ofNat (n % d) ++
      '/' :: Decimal.ofNat d

theorem remainder_spec {x : ℚ} (h : x.den ≠ 1) :
    0 < x.num.natAbs % x.den ∧ x.num.natAbs % x.den < x.den ∧
      (x.num.natAbs % x.den).Coprime x.den := by
  have hc : (x.num.natAbs % x.den).Coprime x.den := by
    rw [Nat.Coprime, ← Nat.gcd_rec, Nat.gcd_comm]
    exact x.reduced
  refine ⟨Nat.pos_of_ne_zero ?_, Nat.mod_lt _ x.den_pos, hc⟩
  intro hz
  rw [hz, Nat.coprime_zero_left] at hc
  exact h hc

theorem Decimal.ofInt_eq (n : Int) : ofInt n = sign n ++ ofNat n.natAbs := by
  rw [ofInt, sign]
  split_ifs
  · rfl
  · rfl

theorem Decimal.ofInt_natCast (n : Nat) : ofInt n = ofNat n := by
  simp [ofInt_eq, sign]

theorem Decimal.ofInt_tdiv {n : Int} {d : Nat} (hd : 0 < d) (h : d ≤ n.natAbs) :
    ofInt (n.tdiv d) = sign n ++ ofNat (n.natAbs / d) := by
  have hq : 0 < n.natAbs / d := Nat.div_pos h hd
  rcases Int.natAbs_eq n with hn | hn
  · have hs : ¬n < 0 := by omega
    have hv : n.tdiv d = (n.natAbs / d : Nat) := by
      rw [hn, Int.natAbs_natCast]
      exact Int.ofNat_tdiv n.natAbs d
    rw [hv, ofInt_natCast, sign, if_neg hs, List.nil_append]
  · have hs : n < 0 := by omega
    have hv : n.tdiv d = -(n.natAbs / d : Nat) := by
      rw [hn, Int.neg_tdiv, Int.natAbs_neg, Int.natAbs_natCast]
      exact congrArg Neg.neg (Int.ofNat_tdiv n.natAbs d)
    rw [hv, ofInt_eq, Int.natAbs_neg, Int.natAbs_natCast, sign, sign, if_pos hs, if_pos (by omega)]

namespace Fraction

theorem fits_natAbs_iff {n : Int} (h : Fits n) : Fits n.natAbs ↔ n ≠ -2147483648 := by
  unfold Fits at *
  omega

variable {f : Fraction}

theorem proper_lowest (h : f.Proper) : (lowest f.toRat).Proper := by
  obtain ⟨k, hk, hf⟩ := exists_eq_scale_lowest h.2.2
  obtain ⟨hn, hd, -⟩ := h
  rw [hf] at hn hd
  exact ⟨fits_of_fits_mul hk hn, fits_of_fits_mul hk hd, Int.natCast_pos.2 f.toRat.den_pos⟩

theorem num_ne_least (h : f.Proper) (hm : f.numerator ≠ -2147483648) :
    f.toRat.num ≠ -2147483648 := by
  obtain ⟨k, hk, hf⟩ := exists_eq_scale_lowest h.2.2
  have hn : f.numerator = k * f.toRat.num := congrArg numerator hf
  exact ne_least_of_mul hk (hn ▸ h.1) (hn ▸ hm)

theorem gcd_scale_lowest {k : Int} (hk : 0 < k) (x : ℚ) :
    (gcd (k * x.num).natAbs (k * x.den).natAbs : Int) = k := by
  have hr : x.num.natAbs.gcd x.den = 1 := x.reduced
  rw [gcd_eq, Int.natAbs_mul, Int.natAbs_mul, Int.natAbs_natCast, Nat.gcd_mul_left, hr]
  omega

theorem reduce_eq (h : f.Proper) : f.reduce =
    if f.numerator = -2147483648 then .error Step.reduction.overflow
    else if f.numerator = 0 then .ok f
    else .ok (lowest f.toRat) := by
  have hd : Fits f.denominator.natAbs :=
    (fits_natAbs_iff h.2.1).2 (by have := h.2.2; omega)
  rw [reduce, if_neg h.2.2.ne']
  simp only [Step.checked_bind, fits_natAbs_iff h.1, if_pos hd, Int.toNat_natCast]
  by_cases hz : f.numerator = 0
  · simp [hz]
  · rw [if_neg hz, if_neg hz]
    by_cases hm : f.numerator = -2147483648
    · simp [hm]
    · rw [if_pos hm, if_neg hm]
      obtain ⟨k, hk, hf⟩ := exists_eq_scale_lowest h.2.2
      generalize f.toRat = x at hf
      subst hf
      simp only [scale, lowest, gcd_scale_lowest hk, Int.mul_tdiv_cancel_left _ hk.ne']
      rfl

theorem abs_lt_one_iff (x : ℚ) : |x| < 1 ↔ x.num.natAbs < x.den := by
  rw [← Rat.num_lt_denom_iff, Rat.num_abs_eq_abs_num, Rat.den_abs_eq_den, Int.abs_eq_natAbs,
    Int.ofNat_lt]

theorem tmod_den_eq_zero_iff (x : ℚ) : x.num.tmod x.den = 0 ↔ x.den = 1 := by
  rw [← Int.natAbs_eq_zero, Int.natAbs_tmod, Int.natAbs_natCast]
  constructor
  · intro hz
    by_contra h
    exact (remainder_spec h).1.ne' hz
  · intro h
    rw [h, Nat.mod_one]

theorem fits_of_natAbs_le {m n : Int} (hm : m ≠ -2147483648) (h : Fits m)
    (hn : n.natAbs ≤ m.natAbs) : Fits n := by
  unfold Fits at *
  omega

theorem fits_tdiv {m : Int} (hm : m ≠ -2147483648) (h : Fits m) (n : Int) :
    Fits (m.tdiv n) :=
  fits_of_natAbs_le hm h (Int.natAbs_tdiv_le_natAbs m n)

theorem fits_natAbs_mod {m : Int} (hm : m ≠ -2147483648) (h : Fits m) (n : Nat) :
    Fits (m.natAbs % n : Nat) :=
  fits_of_natAbs_le hm h (Nat.mod_le m.natAbs n)

theorem canonicalText_of_integral {x : ℚ} (h : x.den = 1) :
    canonicalText x = Decimal.ofInt x.num := by
  by_cases h0 : x = 0
  · rw [h0]
    rfl
  · simp only [canonicalText, if_neg h0, if_pos h, Decimal.ofInt_eq]

theorem ne_zero_of_den_ne_one {x : ℚ} (h : x.den ≠ 1) : x ≠ 0 := by
  intro h0
  subst h0
  exact h rfl

theorem canonicalText_of_lt {x : ℚ} (h : x.den ≠ 1) (hlt : x.num.natAbs < x.den) :
    canonicalText x = Decimal.ofInt x.num ++ '/' :: Decimal.ofNat x.den := by
  have h0 := ne_zero_of_den_ne_one h
  simp only [canonicalText, if_neg h0, if_neg h, if_pos ((abs_lt_one_iff x).2 hlt),
    Decimal.ofInt_eq]

theorem canonicalText_of_le {x : ℚ} (h : x.den ≠ 1) (hle : x.den ≤ x.num.natAbs) :
    canonicalText x = Decimal.ofInt (x.num.tdiv x.den) ++
      '_' :: (Decimal.ofNat (x.num.natAbs % x.den) ++ '/' :: Decimal.ofNat x.den) := by
  have h0 := ne_zero_of_den_ne_one h
  have hlt : ¬|x| < 1 := (abs_lt_one_iff x).not.2 (not_lt.2 hle)
  simp only [canonicalText, if_neg h0, if_neg h, if_neg hlt,
    Decimal.ofInt_tdiv x.den_pos hle, List.append_assoc, List.cons_append]

theorem reducedText_lowest {x : ℚ} (h : (lowest x).Proper) (hm : x.num ≠ -2147483648) :
    (lowest x).reducedText = .ok (canonicalText x) := by
  have hn : Fits x.num := h.1
  have hd : Fits x.den := h.2.1
  have ha : Fits x.num.natAbs := (fits_natAbs_iff hn).2 hm
  have hq : Fits (x.num.tdiv x.den) := fits_tdiv hm hn x.den
  have hra : Fits (x.num.natAbs % x.den : Nat) := fits_natAbs_mod hm hn x.den
  have hmod : (x.num.tmod x.den).natAbs = x.num.natAbs % x.den := by
    rw [Int.natAbs_tmod, Int.natAbs_natCast]
  have hr : Fits (x.num.tmod x.den) := fits_of_natAbs_le hm hn (hmod ▸ Nat.mod_le _ _)
  simp only [reducedText, lowest, Step.checked_bind, if_pos hr, if_pos hq, if_pos ha, if_pos hra,
    Int.natAbs_natCast, if_pos hd, Int.ofNat_lt, tmod_den_eq_zero_iff, Rat.num_eq_zero, hmod,
    display, Decimal.ofInt_natCast]
  split_ifs with h0 h1 hlt
  · rw [h0]
    rfl
  · rw [canonicalText_of_integral h1, h1, Nat.cast_one, Int.tdiv_one]
    rfl
  · rw [canonicalText_of_lt h1 hlt]
    rfl
  · rw [canonicalText_of_le h1 (not_lt.1 hlt)]
    rfl

/-- A proper fraction is written as the canonical text of its number. -/
theorem text_eq (h : f.Proper) : f.text =
    if f.numerator = -2147483648 then .error Step.reduction.overflow
    else .ok (canonicalText f.toRat) := by
  rw [text, reduce_eq h]
  split_ifs with hm hz
  · rfl
  · have hx : f.toRat = 0 := (toRat_eq_zero_iff h.2.2).2 hz
    rw [ok_bind, reducedText, hx]
    simp [hz, canonicalText]
  · rw [ok_bind]
    exact reducedText_lowest (proper_lowest h) (num_ne_least h hm)

theorem text_eq_ok_iff (h : f.Proper) {t : Text} :
    f.text = .ok t ↔ f.numerator ≠ -2147483648 ∧ canonicalText f.toRat = t := by
  rw [text_eq h]
  split_ifs with hm
  · simp [hm]
  · simp [hm]

end Fraction
end FractionCalculator
