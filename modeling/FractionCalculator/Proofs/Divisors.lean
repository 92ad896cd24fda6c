import FractionCalculator.Proofs.Reduction
import Mathlib.Order.Bounds.Basic

/-!
# Two loops for one divisor

The loop by remainders and the loop by differences, on unsigned words, each as the
round that it repeats. A round by remainders lowers the second word, a round by
differences lowers the sum of two positive words, and neither changes the common
divisors; so both loops end, and what they end with is the greatest of these.
-/

namespace FractionCalculator

/-- The loop that repeats a round ends, and with this state. -/
inductive EndsWith {σ : Type} (round : σ → Option σ) : σ → σ → Prop where
  | done {s : σ} (h : round s = none) : EndsWith round s s
  | next {s t e : σ} (h : round s = some t) (ht : EndsWith round t e) : EndsWith round s e

structure Words where
  left : UInt32
  right : UInt32
deriving DecidableEq, Repr

namespace Words

def remainder (w : Words) : Option Words :=
  if w.right = 0 then none else some ⟨w.right, w.left % w.right⟩

def difference (w : Words) : Option Words :=
  if w.left = w.right then none
  else if w.left < w.right then some ⟨w.left, w.right - w.left⟩
  else some ⟨w.left - w.right, w.right⟩

def Positive (w : Words) : Prop :=
  0 < w.left.toNat ∧ 0 < w.right.toNat

def sum (w : Words) : Nat :=
  w.left.toNat + w.right.toNat

end Words

variable {σ : Type} {round : σ → Option σ} {s e e' : σ} {a b : UInt32} {w v : Words}

theorem EndsWith.unique (h : EndsWith round s e) (h' : EndsWith round s e') : e' = e := by
  induction h with
  | done hs =>
    cases h' with
    | done => rfl
    | next hs' => exact absurd (hs.symm.trans hs') nofun
  | next hs _ ih =>
    cases h' with
    | done hs' => exact absurd (hs.symm.trans hs') nofun
    | next hs' ht' =>
      obtain rfl := Option.some.inj (hs.symm.trans hs')
      exact ih ht'

theorem EndsWith.iff_eq (h : EndsWith round s e) : EndsWith round s e' ↔ e' = e := by
  constructor
  · exact h.unique
  · rintro rfl
    exact h

/-! ## The divisor of two words -/

theorem toNat_gcdWords_eq_gcd (a b : UInt32) : (gcdWords a b).toNat = Nat.gcd a.toNat b.toNat := by
  rw [toNat_gcdWords, gcd_eq]

theorem gcdWords_self (a : UInt32) : gcdWords a a = a := by
  rw [← UInt32.toNat_inj, toNat_gcdWords_eq_gcd, Nat.gcd_self]

theorem gcdWords_zero_left (b : UInt32) : gcdWords 0 b = b := by
  rw [← UInt32.toNat_inj, toNat_gcdWords_eq_gcd]
  exact Nat.gcd_zero_left _

theorem gcdWords_zero_right (a : UInt32) : gcdWords a 0 = a := by
  rw [gcdWords, if_pos rfl]

theorem gcdWords_eq_zero_iff : gcdWords a b = 0 ↔ a = 0 ∧ b = 0 := by
  simp only [← UInt32.toNat_inj, toNat_gcdWords_eq_gcd, UInt32.toNat_zero, Nat.gcd_eq_zero_iff]

/-! ## By remainders -/

theorem endsWith_remainder (a b : UInt32) :
    EndsWith Words.remainder ⟨a, b⟩ ⟨gcdWords a b, 0⟩ := by
  fun_induction gcdWords a b with
  | case1 a => exact .done (by simp [Words.remainder])
  | case2 a b hb ih => exact .next (by simp [Words.remainder, hb]) ih

/-! ## By differences -/

theorem eq_of_difference_eq_none (h : w.difference = none) : w.left = w.right := by
  rw [Words.difference] at h
  split_ifs at h with he
  exact he

/-- What a round by differences does to the two numbers: the smaller stays, and the other loses it
without wrapping. -/
theorem toNat_of_difference (h : w.difference = some v) :
    w.left.toNat < w.right.toNat ∧ v.left.toNat = w.left.toNat ∧
        v.right.toNat = w.right.toNat - w.left.toNat ∨
      w.right.toNat < w.left.toNat ∧ v.left.toNat = w.left.toNat - w.right.toNat ∧
        v.right.toNat = w.right.toNat := by
  rw [Words.difference] at h
  split_ifs at h with he hl
  · obtain rfl := Option.some.inj h
    exact .inl ⟨hl, rfl, UInt32.toNat_sub_of_le _ _ (UInt32.le_of_lt hl)⟩
  · obtain rfl := Option.some.inj h
    rw [← UInt32.toNat_inj] at he
    rw [UInt32.lt_iff_toNat_lt] at hl
    have hr : w.right.toNat < w.left.toNat := by omega
    exact .inr ⟨hr, UInt32.toNat_sub_of_le _ _ (UInt32.le_of_lt hr), rfl⟩

theorem positive_of_difference (h : w.difference = some v) (hw : w.Positive) : v.Positive := by
  unfold Words.Positive at *
  rcases toNat_of_difference h with ⟨hlt, hl, hr⟩ | ⟨hlt, hl, hr⟩
  · omega
  · omega

theorem sum_lt_of_difference (h : w.difference = some v) (hw : w.Positive) : v.sum < w.sum := by
  unfold Words.Positive Words.sum at *
  rcases toNat_of_difference h with ⟨hlt, hl, hr⟩ | ⟨hlt, hl, hr⟩
  · omega
  · omega

theorem gcdWords_of_difference (h : w.difference = some v) :
    gcdWords v.left v.right = gcdWords w.left w.right := by
  rw [← UInt32.toNat_inj, toNat_gcdWords_eq_gcd, toNat_gcdWords_eq_gcd]
  rcases toNat_of_difference h with ⟨hlt, hl, hr⟩ | ⟨hlt, hl, hr⟩
  · rw [hl, hr, Nat.gcd_sub_self_right hlt.le]
  · rw [hl, hr, Nat.gcd_sub_self_left hlt.le]

theorem endsWith_difference (hw : w.Positive) :
    EndsWith Words.difference w ⟨gcdWords w.left w.right, gcdWords w.left w.right⟩ := by
  induction hn : w.sum using Nat.strong_induction_on generalizing w with
  | _ n ih =>
    cases hd : w.difference with
    | none =>
      obtain ⟨a, b⟩ := w
      obtain rfl : a = b := eq_of_difference_eq_none hd
      rw [gcdWords_self]
      exact .done hd
    | some v =>
      have hv : v.sum < n := hn ▸ sum_lt_of_difference hd hw
      rw [← gcdWords_of_difference hd]
      exact .next hd (ih v.sum hv (positive_of_difference hd hw) rfl)

/-! ## Both loops -/

theorem dvd_gcd_iff {d m n : Nat} : d ∣ gcd m n ↔ d ∣ m ∧ d ∣ n := by
  rw [gcd_eq, Nat.dvd_gcd_iff]

theorem isGreatest_gcd {m n : Nat} (h : m ≠ 0 ∨ n ≠ 0) :
    IsGreatest {d | d ∣ m ∧ d ∣ n} (gcd m n) := by
  refine ⟨dvd_gcd_iff.1 dvd_rfl, fun d hd => Nat.le_of_dvd ?_ (dvd_gcd_iff.2 hd)⟩
  rw [gcd_eq, Nat.gcd_pos_iff]
  omega

/-- The loop by remainders ends for any two words, with their greatest common divisor, and for two
positive words the loop by differences ends with the same. The divisor with zero is the other
word, and it is zero for two zeros only. -/
theorem gcd_of_either_loop (a b : UInt32) :
    (gcdWords a b).toNat = gcd a.toNat b.toNat ∧
    (∀ e, EndsWith Words.remainder ⟨a, b⟩ e ↔ e = ⟨gcdWords a b, 0⟩) ∧
    (∀ d, d ∣ gcd a.toNat b.toNat ↔ d ∣ a.toNat ∧ d ∣ b.toNat) ∧
    (a ≠ 0 ∨ b ≠ 0 → IsGreatest {d | d ∣ a.toNat ∧ d ∣ b.toNat} (gcd a.toNat b.toNat)) ∧
    gcdWords a 0 = a ∧ gcdWords 0 b = b ∧ (gcdWords a b = 0 ↔ a = 0 ∧ b = 0) ∧
    (0 < a → 0 < b →
      ∀ e, EndsWith Words.difference ⟨a, b⟩ e ↔ e = ⟨gcdWords a b, gcdWords a b⟩) := by
  refine ⟨toNat_gcdWords a b, fun e => (endsWith_remainder a b).iff_eq, fun d => dvd_gcd_iff, ?_,
    gcdWords_zero_right a, gcdWords_zero_left b, gcdWords_eq_zero_iff, ?_⟩
  · intro h
    simp only [ne_eq, ← UInt32.toNat_inj] at h
    exact isGreatest_gcd h
  · intro ha hb e
    have hw : Words.Positive ⟨a, b⟩ := ⟨UInt32.lt_iff_toNat_lt.1 ha, UInt32.lt_iff_toNat_lt.1 hb⟩
    exact (endsWith_difference hw).iff_eq

theorem gcd_of_either_loop_greatest :
    EndsWith Words.remainder ⟨4294967295, 3⟩ ⟨3, 0⟩ ∧
    EndsWith Words.difference ⟨4294967295, 3⟩ ⟨3, 3⟩ ∧
    IsGreatest {d | d ∣ 4294967295 ∧ d ∣ 3} 3 := by
  have hg : gcdWords 4294967295 3 = 3 := by decide +kernel
  obtain ⟨words, remainders, -, greatest, -, -, -, differences⟩ := gcd_of_either_loop 4294967295 3
  rw [← words, hg] at greatest
  rw [hg] at remainders differences
  exact ⟨(remainders _).2 rfl, (differences (by decide) (by decide) _).2 rfl,
    greatest (.inl (by decide))⟩

end FractionCalculator
