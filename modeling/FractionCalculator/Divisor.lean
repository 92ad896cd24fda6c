/-!
# Greatest common divisors

The greatest common divisor of two magnitudes by remainders: few steps even
where one magnitude is tiny, and the same divisor as taking the smaller from the
larger until both are equal.
-/

namespace FractionCalculator

def gcd (a b : Nat) : Nat :=
  if b = 0 then a else gcd b (a % b)
termination_by b
decreasing_by exact Nat.mod_lt _ (by omega)

@[simp] theorem gcd_zero_right (a : Nat) : gcd a 0 = a := by
  unfold gcd; simp

theorem gcd_eq_gcd_mod (a : Nat) {b : Nat} (h : b ≠ 0) : gcd a b = gcd b (a % b) := by
  rw [gcd, if_neg h]

end FractionCalculator
