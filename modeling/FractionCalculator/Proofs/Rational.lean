import FractionCalculator.Proofs.Checks
import FractionCalculator.Proofs.Notation
import Mathlib.Algebra.Order.Ring.Rat
import Mathlib.Data.Rat.Lemmas
import Mathlib.Tactic.FieldSimp
import Mathlib.Tactic.Linarith

/-!
# The rational number of a fraction

A fraction stands for the quotient of its components. What a constructor answers
is proper and stands for the number that the given components mean: a whole
number itself, a pair its quotient, a mixed number its whole part carried further
from zero by the quotient of the other two. Each proper fraction is a positive
multiple of the pair in lowest terms.
-/

namespace FractionCalculator

namespace Fraction

def toRat (f : Fraction) : ℚ :=
  f.numerator / f.denominator

def lowest (x : ℚ) : Fraction :=
  ⟨x.num, x.den⟩

def scale (k : Int) (f : Fraction) : Fraction :=
  ⟨k * f.numerator, k * f.denominator⟩

@[simp] theorem toRat_whole (n : Int) : (whole n).toRat = n := by
  simp [toRat, whole]

@[simp] theorem toRat_lowest (x : ℚ) : (lowest x).toRat = x := by
  simpa [toRat, lowest] using x.num_div_den

theorem toRat_scale {k : Int} (hk : k ≠ 0) (f : Fraction) : (f.scale k).toRat = f.toRat := by
  have hk' : (k : ℚ) ≠ 0 := by exact_mod_cast hk
  simp only [toRat, scale, Int.cast_mul]
  exact mul_div_mul_left _ _ hk'

theorem toRat_eq_zero_iff {f : Fraction} (h : 0 < f.denominator) :
    f.toRat = 0 ↔ f.numerator = 0 := by
  have hd : f.denominator ≠ 0 := by omega
  simp [toRat, hd]

theorem exists_eq_scale_lowest {f : Fraction} (h : 0 < f.denominator) :
    ∃ k : Int, 0 < k ∧ f = (lowest f.toRat).scale k := by
  obtain ⟨k, hn, hd⟩ := Rat.exists_eq_mul_div_num_and_eq_mul_div_den f.numerator h.ne'
  refine ⟨k, ?_, ?_⟩
  · have hp : (0 : Int) < f.toRat.den := by exact_mod_cast f.toRat.den_pos
    exact pos_of_mul_pos_left (hd ▸ h) hp.le
  · cases f
    simp only [scale, lowest, mk.injEq]
    exact ⟨hn, hd⟩

theorem fits_of_fits_mul {k n : Int} (hk : 0 < k) (h : Fits (k * n)) : Fits n := by
  obtain ⟨hl, hu⟩ := h
  constructor
  · nlinarith
  · nlinarith

theorem ne_least_of_mul {k n : Int} (hk : 0 < k) (h : Fits (k * n)) (hm : k * n ≠ -2147483648) :
    n ≠ -2147483648 := by
  intro hn
  subst hn
  obtain ⟨hl, -⟩ := h
  omega

theorem ofPair_of_pos {n d : Int} (h : 0 < d) : ofPair n d = .ok ⟨n, d⟩ :=
  normalize_of_pos h

theorem ofPair_eq_ok_iff {n d : Int} {f : Fraction} : ofPair n d = .ok f ↔
    0 < d ∧ f = ⟨n, d⟩ ∨ d < 0 ∧ Fits (-n) ∧ Fits (-d) ∧ f = ⟨-n, -d⟩ := by
  simp only [ofPair, normalize]
  split_ifs with h0 hp
  · simp [h0]
  · simp [hp, hp.not_gt, eq_comm]
  · have hn : d < 0 := by omega
    simp only [bind_eq_ok_iff, Step.checked_eq_ok_iff, pure, Except.pure, Except.ok.injEq]
    grind

theorem proper_of_ofPair {n d : Int} {f : Fraction} (hn : Fits n) (hd : Fits d)
    (h : ofPair n d = .ok f) : f.Proper := by
  rcases ofPair_eq_ok_iff.1 h with ⟨hp, rfl⟩ | ⟨hm, hn', hd', rfl⟩
  · exact ⟨hn, hd, hp⟩
  · exact ⟨hn', hd', by dsimp only; omega⟩

theorem toRat_of_ofPair {n d : Int} {f : Fraction} (h : ofPair n d = .ok f) :
    d ≠ 0 ∧ f.toRat = n / d := by
  rcases ofPair_eq_ok_iff.1 h with ⟨hp, rfl⟩ | ⟨hm, -, -, rfl⟩
  · exact ⟨hp.ne', rfl⟩
  · refine ⟨hm.ne, ?_⟩
    simp [toRat, neg_div_neg_eq]

def conversions (w n d : Int) : List Int :=
  if w = 0 then []
  else [(w.natAbs : Int), w.natAbs * d, w.natAbs * d + n] ++
    if w < 0 then [-(w.natAbs * d + n)] else []

def improper (w n d : Int) : Int :=
  if w = 0 then n else w.sign * (w.natAbs * d + n)

theorem improper_of_ne_zero {w : Int} (hw : w ≠ 0) (n d : Int) :
    improper w n d = w.sign * (w.natAbs * d + n) :=
  if_neg hw

theorem mixedNumerator_eq (w n d : Int) :
    mixedNumerator w n d =
      if ∀ m ∈ conversions w n d, Fits m then .ok (improper w n d)
      else .error Step.mixedConversion.overflow := by
  rw [← Step.checkAll_map_bind _ _ fun _ => .ok (improper w n d)]
  rcases Int.lt_trichotomy w 0 with hw | rfl | hw
  · simp only [mixedNumerator, conversions, improper, if_neg hw.ne, if_pos hw,
      Int.sign_eq_neg_one_of_neg hw, neg_one_mul, List.cons_append, List.nil_append,
      List.map_cons, List.map_nil, Step.checked_bind, Step.checkAll_cons_bind,
      Step.checkAll_nil_bind]
    rfl
  · rfl
  · simp only [mixedNumerator, conversions, improper, if_neg hw.ne', if_neg hw.not_gt,
      Int.sign_eq_one_of_pos hw, one_mul, List.append_nil, List.map_cons, List.map_nil,
      Step.checked_bind, Step.checkAll_cons_bind, Step.checkAll_nil_bind]
    rfl

theorem mixedNumerator_eq_ok_iff {w n d m : Int} : mixedNumerator w n d = .ok m ↔
    (∀ k ∈ conversions w n d, Fits k) ∧ m = improper w n d := by
  rw [mixedNumerator_eq]
  split_ifs with hc
  · rw [and_iff_right hc, Except.ok.injEq, eq_comm]
  · exact ⟨nofun, fun h => absurd h.1 hc⟩

theorem fits_improper {w n d : Int} (hn : Fits n) (h : ∀ k ∈ conversions w n d, Fits k) :
    Fits (improper w n d) := by
  rcases Int.lt_trichotomy w 0 with hw | rfl | hw
  · rw [improper_of_ne_zero hw.ne, Int.sign_eq_neg_one_of_neg hw, neg_one_mul]
    exact h _ (by simp [conversions, hw, hw.ne])
  · exact hn
  · rw [improper_of_ne_zero hw.ne', Int.sign_eq_one_of_pos hw, one_mul]
    exact h _ (by simp [conversions, hw.ne'])

end Fraction

namespace Operand

def Bounded : Operand → Prop
  | .whole n => Fits n
  | .fraction n d => Fits n ∧ Fits d
  | .mixed w n d => Fits w ∧ Fits n ∧ Fits d
  | .typed _ => True

/-- The number that an operand means. Over zero it means none, and the sign of a whole part other
than zero is the sign of the whole. -/
inductive Means : Operand → ℚ → Prop where
  | whole (n : Int) : Means (.whole n) n
  | fraction {n d : Int} (hd : d ≠ 0) : Means (.fraction n d) (n / d)
  | mixed {w n d : Int} (hw : w ≠ 0) (hd : d ≠ 0) :
    Means (.mixed w n d) (w.sign * (|(w : ℚ)| + n / d))
  | mixedZero {n d : Int} (hd : d ≠ 0) : Means (.mixed 0 n d) (n / d)
  | typed {t : Text} {o : Operand} {x : ℚ} (ht : Written t o) (ho : Means o x) : Means (.typed t) x

theorem Written.bounded {t : Text} {o : Operand} (h : Written t o) : o.Bounded := by
  cases h with
  | whole hn => exact hn.fits
  | fraction hn hd => exact ⟨hn.fits, hd.fits⟩
  | mixed hw hn hd => exact ⟨hw.fits, hn.fits, hd.fits⟩

theorem Written.ne_typed {t : Text} {o : Operand} (h : Written t o) (u : Text) :
    o ≠ .typed u := by
  cases h <;> simp

end Operand

namespace Fraction

theorem mixed_eq_ok_iff {w n d : Int} {f : Fraction} :
    mixed w n d = .ok f ↔ ∃ m, mixedNumerator w n d = .ok m ∧ ofPair m d = .ok f := by
  rw [mixed]
  split_ifs with h0
  · simp [h0, ofPair_eq_ok_iff]
  · exact bind_eq_ok_iff

theorem proper_of_mixed {w n d : Int} {f : Fraction} (hn : Fits n) (hd : Fits d)
    (h : mixed w n d = .ok f) : f.Proper := by
  obtain ⟨m, hm, hf⟩ := mixed_eq_ok_iff.1 h
  obtain ⟨hc, rfl⟩ := mixedNumerator_eq_ok_iff.1 hm
  exact proper_of_ofPair (fits_improper hn hc) hd hf

theorem means_of_mixed {w n d : Int} {f : Fraction} (h : mixed w n d = .ok f) :
    (Operand.mixed w n d).Means f.toRat := by
  obtain ⟨m, hm, hf⟩ := mixed_eq_ok_iff.1 h
  obtain ⟨hd, hx⟩ := toRat_of_ofPair hf
  obtain ⟨-, rfl⟩ := mixedNumerator_eq_ok_iff.1 hm
  rw [hx]
  by_cases hw : w = 0
  · subst hw
    exact .mixedZero hd
  · have hd' : (d : ℚ) ≠ 0 := by exact_mod_cast hd
    have hv : (improper w n d : ℚ) / d = w.sign * (|(w : ℚ)| + n / d) := by
      rw [improper_of_ne_zero hw, ← Int.cast_abs, Int.abs_eq_natAbs]
      push_cast
      field_simp
    rw [hv]
    exact .mixed hw hd

end Fraction

namespace Operand

theorem spec_of_components {o : Operand} {f : Fraction} (hn : ∀ t, o ≠ .typed t)
    (hb : o.Bounded) (h : o.value = .ok f) : f.Proper ∧ o.Means f.toRat := by
  cases o with
  | whole n =>
    obtain rfl := Except.ok.inj h
    exact ⟨Fraction.proper_whole hb, by simpa using Means.whole n⟩
  | fraction n d =>
    obtain ⟨hd, hx⟩ := Fraction.toRat_of_ofPair h
    exact ⟨Fraction.proper_of_ofPair hb.1 hb.2 h, hx ▸ .fraction hd⟩
  | mixed w n d =>
    exact ⟨Fraction.proper_of_mixed hb.2.1 hb.2.2 h, Fraction.means_of_mixed h⟩
  | typed t => exact absurd rfl (hn t)

/-- What an operand gives is proper and stands for the number that the operand means. -/
theorem spec_of_value {o : Operand} {f : Fraction} (hb : o.Bounded) (h : o.value = .ok f) :
    f.Proper ∧ o.Means f.toRat := by
  cases o with
  | whole n => exact spec_of_components (by simp) hb h
  | fraction n d => exact spec_of_components (by simp) hb h
  | mixed w n d => exact spec_of_components (by simp) hb h
  | typed t =>
    obtain ⟨o, hw, ho⟩ := parse_eq_ok_iff.1 h
    obtain ⟨hp, hm⟩ := spec_of_components hw.ne_typed hw.bounded ho
    exact ⟨hp, .typed hw hm⟩

end Operand
end FractionCalculator
