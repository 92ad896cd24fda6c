import FractionCalculator.Proofs.Arithmetic
import FractionCalculator.Proofs.Canonical

/-!
# Reduction

A fraction is reduced and written unless its numerator is the least component, and
no step of the formatting ever overflows. What it is reduced to is the one pair in
lowest terms of its value, zero apart, and reducing that again changes nothing. The
divisor is taken on 32-bit words: both magnitudes go there as unsigned words and
the divisor comes back signed, neither with a loss, and both divisions are exact.
-/

namespace FractionCalculator

/-! ## The divisor on words -/

def gcdWords (a b : UInt32) : UInt32 :=
  if b = 0 then a else gcdWords b (a % b)
termination_by b.toNat
decreasing_by
  rename_i hb
  rw [UInt32.toNat_mod]
  exact Nat.mod_lt _ (Nat.pos_of_ne_zero fun h0 => hb (UInt32.toNat_inj.1 h0))

theorem toNat_gcdWords (a b : UInt32) : (gcdWords a b).toNat = gcd a.toNat b.toNat := by
  fun_induction gcdWords a b with
  | case1 a => exact (gcd_zero_right a.toNat).symm
  | case2 a b hb ih =>
    have hb' : b.toNat ≠ 0 := fun h0 => hb (UInt32.toNat_inj.1 h0)
    rw [ih, UInt32.toNat_mod, ← gcd_eq_gcd_mod _ hb']

def unsignedWord (n : Int) : UInt32 :=
  (Int32.ofInt n.natAbs).toUInt32

theorem toNat_unsignedWord {n : Int} (h : n.natAbs ≤ 2147483647) :
    (unsignedWord n).toNat = n.natAbs := by
  change (BitVec.ofInt 32 n.natAbs).toNat = n.natAbs
  rw [BitVec.ofInt_natCast, BitVec.toNat_ofNat, Nat.mod_eq_of_lt (by omega)]

theorem toInt_signedWord {w : UInt32} (h : w.toNat ≤ 2147483647) :
    w.toInt32.toInt = w.toNat := by
  refine BitVec.toInt_eq_toNat_of_lt (x := w.toBitVec) ?_
  change 2 * w.toNat < 2 ^ 32
  omega

namespace Fraction

variable {f v : Fraction}

def divisor (f : Fraction) : Nat :=
  gcd f.numerator.natAbs f.denominator.natAbs

def wordDivisor (f : Fraction) : Int32 :=
  (gcdWords (unsignedWord f.numerator) (unsignedWord f.denominator)).toInt32

theorem natAbs_le_of_ne_least {n : Int} (h : Fits n) (hm : n ≠ -2147483648) :
    n.natAbs ≤ 2147483647 :=
  (fits_iff_natAbs.1 h).resolve_right hm

theorem divisor_pos (hd : 0 < f.denominator) : 0 < f.divisor := by
  rw [divisor, gcd_eq]
  exact Nat.gcd_pos_of_pos_right _ (by omega)

theorem divisor_le (h : f.Proper) : f.divisor ≤ 2147483647 := by
  obtain ⟨-, ⟨-, hle⟩, hd⟩ := h
  have hg := Nat.gcd_le_right f.numerator.natAbs (n := f.denominator.natAbs) (by omega)
  rw [divisor, gcd_eq]
  omega

theorem toInt_wordDivisor (h : f.Proper) (hm : f.numerator ≠ -2147483648) :
    f.wordDivisor.toInt = f.divisor := by
  obtain ⟨hn, hd, hp⟩ := id h
  have hw : (gcdWords (unsignedWord f.numerator) (unsignedWord f.denominator)).toNat =
      f.divisor := by
    rw [toNat_gcdWords, toNat_unsignedWord (natAbs_le_of_ne_least hn hm),
      toNat_unsignedWord (natAbs_le_of_ne_least hd (by omega)), divisor]
  rw [wordDivisor, toInt_signedWord (hw ▸ divisor_le h), hw]

/-- The division of both components by their divisor: on words it is what it is without bound, and
it leaves no remainder. -/
structure DividesOut (f v : Fraction) : Prop where
  divisor_ne_zero : f.divisor ≠ 0
  unsigned_numerator : (unsignedWord f.numerator).toNat = f.numerator.natAbs
  unsigned_denominator : (unsignedWord f.denominator).toNat = f.denominator.natAbs
  signed_divisor : f.wordDivisor.toInt = f.divisor
  numerator : v.numerator * f.divisor = f.numerator
  denominator : v.denominator * f.divisor = f.denominator

theorem eq_scale_divisor (hd : 0 < f.denominator) : f = (lowest f.toRat).scale f.divisor := by
  obtain ⟨k, hk, hf⟩ := exists_eq_scale_lowest hd
  have hv : (f.divisor : Int) = k := by
    rw [hf]
    exact gcd_scale_lowest hk f.toRat
  rw [hv]
  exact hf

theorem dividesOut_lowest (h : f.Proper) (hm : f.numerator ≠ -2147483648) :
    f.DividesOut (lowest f.toRat) where
  divisor_ne_zero := (divisor_pos h.2.2).ne'
  unsigned_numerator := toNat_unsignedWord (natAbs_le_of_ne_least h.1 hm)
  unsigned_denominator :=
    toNat_unsignedWord (natAbs_le_of_ne_least h.2.1 (by have := h.2.2; omega))
  signed_divisor := toInt_wordDivisor h hm
  numerator := by
    rw [mul_comm]
    exact (congrArg Fraction.numerator (eq_scale_divisor h.2.2)).symm
  denominator := by
    rw [mul_comm]
    exact (congrArg Fraction.denominator (eq_scale_divisor h.2.2)).symm

/-! ## Lowest terms -/

structure IsLowest (f v : Fraction) : Prop where
  pos : 0 < v.denominator
  coprime : v.numerator.natAbs.Coprime v.denominator.natAbs
  cross : v.numerator * f.denominator = f.numerator * v.denominator

theorem lowest_toRat (hd : 0 < v.denominator)
    (hc : v.numerator.natAbs.Coprime v.denominator.natAbs) : lowest v.toRat = v := by
  cases v
  simp only [lowest, toRat, mk.injEq]
  exact ⟨Rat.num_div_eq_of_coprime hd hc, Rat.den_div_eq_of_coprime hd hc⟩

theorem isLowest_iff (hf : 0 < f.denominator) : f.IsLowest v ↔ v = lowest f.toRat := by
  have hf' : (f.denominator : ℚ) ≠ 0 := by exact_mod_cast hf.ne'
  constructor
  · rintro ⟨hv, hc, hx⟩
    have hv' : (v.denominator : ℚ) ≠ 0 := by exact_mod_cast hv.ne'
    have he : v.toRat = f.toRat := by
      rw [toRat, toRat, div_eq_div_iff hv' hf']
      exact_mod_cast hx
    rw [← he, lowest_toRat hv hc]
  · rintro rfl
    refine ⟨Int.natCast_pos.2 f.toRat.den_pos, f.toRat.reduced, ?_⟩
    obtain ⟨k, -, hk⟩ := exists_eq_scale_lowest hf
    generalize f.toRat = x at hk
    subst hk
    simp only [lowest, scale]
    rw [mul_left_comm, mul_assoc]

theorem reduce_eq_ok_iff (h : f.Proper) : f.reduce = .ok v ↔
    f.numerator ≠ -2147483648 ∧ v = if f.numerator = 0 then f else lowest f.toRat := by
  rw [reduce_eq h, ← apply_ite Except.ok]
  by_cases hm : f.numerator = -2147483648
  · rw [if_pos hm]
    exact ⟨nofun, fun h => absurd hm h.1⟩
  · rw [if_neg hm, and_iff_right hm, Except.ok.injEq, eq_comm]

theorem reduce_lowest (h : f.Proper) (hm : f.numerator ≠ -2147483648) (hz : f.numerator ≠ 0) :
    (lowest f.toRat).reduce = .ok (lowest f.toRat) := by
  have hz' : (lowest f.toRat).numerator ≠ 0 :=
    Rat.num_ne_zero.2 ((toRat_eq_zero_iff h.2.2).not.2 hz)
  refine (reduce_eq_ok_iff (proper_lowest h)).2 ⟨num_ne_least h hm, ?_⟩
  rw [if_neg hz', toRat_lowest]

/-- Only the least numerator is refused, by reducing and so by writing. What is reduced is divided
without a remainder down to the one pair in lowest terms, zero stays as it is, and a reduced pair
is reduced to itself. -/
theorem reduced_unless_least (h : Constructed f) :
    ((∃ v, f.reduce = .ok v) ↔ f.numerator ≠ -2147483648) ∧
    ((∃ t, f.text = .ok t) ↔ f.numerator ≠ -2147483648) ∧
    (f.numerator = -2147483648 →
      f.reduce = .error Step.reduction.overflow ∧ f.text = .error Step.reduction.overflow) ∧
    f.text ≠ .error Step.formatting.overflow ∧
    ∀ v, f.reduce = .ok v →
      (f.numerator ≠ 0 → (∀ w, f.IsLowest w ↔ w = v) ∧ f.DividesOut v) ∧
      (f.numerator = 0 → v = f) ∧ v.reduce = .ok v := by
  have hp := h.proper
  refine ⟨?_, ?_, ?_, ?_, ?_⟩
  · simp only [reduce_eq_ok_iff hp, exists_and_left, exists_eq, and_true]
  · simp only [text_eq_ok_iff hp, exists_and_left, exists_eq', and_true]
  · intro hm
    rw [reduce_eq hp, text_eq hp, if_pos hm, if_pos hm]
    exact ⟨rfl, rfl⟩
  · have hne : Step.reduction.overflow ≠ Step.formatting.overflow := by decide +kernel
    rw [text_eq hp]
    split_ifs
    · simpa using hne
    · simp
  · intro v hv
    obtain ⟨hm, hr⟩ := (reduce_eq_ok_iff hp).1 hv
    by_cases hz : f.numerator = 0
    · rw [if_pos hz] at hr
      exact ⟨fun hn => absurd hz hn, fun _ => hr, hr ▸ hv⟩
    · rw [if_neg hz] at hr
      subst hr
      refine ⟨fun _ => ⟨fun w => isLowest_iff hp.2.2, dividesOut_lowest hp hm⟩, ?_,
        reduce_lowest hp hm hz⟩
      intro h0
      exact absurd h0 hz

theorem reduced_unless_least_boundary :
    let f : Fraction := ⟨-2147483647, 2147483647⟩
    let least : Fraction := ⟨-2147483648, 6⟩
    f.reduce = .ok ⟨-1, 1⟩ ∧ (∀ w, f.IsLowest w ↔ w = ⟨-1, 1⟩) ∧ f.DividesOut ⟨-1, 1⟩ ∧
      reduce ⟨-1, 1⟩ = .ok ⟨-1, 1⟩ ∧ least.reduce = .error Step.reduction.overflow ∧
      least.text = .error Step.reduction.overflow := by
  intro f least
  have hr : f.reduce = .ok ⟨-1, 1⟩ := by decide +kernel
  obtain ⟨-, -, -, -, reduced⟩ :=
    reduced_unless_least (f := f) (constructed_iff_proper.2 (by decide))
  obtain ⟨-, -, refused, -⟩ :=
    reduced_unless_least (f := least) (constructed_iff_proper.2 (by decide))
  obtain ⟨nonzero, -, again⟩ := reduced _ hr
  obtain ⟨unique, divided⟩ := nonzero (by decide)
  exact ⟨hr, unique, divided, again, refused rfl⟩

end Fraction
end FractionCalculator
