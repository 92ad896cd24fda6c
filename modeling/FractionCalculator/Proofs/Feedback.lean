import FractionCalculator.Proofs.Exactness
import FractionCalculator.Proofs.Layout
import FractionCalculator.Proofs.Spelling

/-!
# Answers as operands

An answer is the canonical text of a number in range, hence the text of an operand.
Integral part and denominator of such a number have eleven digits at most between
them, which bounds the text by 24 characters. On the number's pair in lowest terms
the neutral operations compute nothing that is too large, so that each of them
gives the answer back.
-/

namespace FractionCalculator

namespace Decimal

theorem length_ofNat_pos (n : Nat) : 0 < (ofNat n).length :=
  List.length_pos_iff.2 Nat.toDigits_ne_nil

theorem pow_length_ofNat_le {n : Nat} (hn : 0 < n) : 10 ^ ((ofNat n).length - 1) ≤ n := by
  by_contra hlt
  rw [Nat.not_le] at hlt
  have hpos := length_ofNat_pos n
  rcases Nat.eq_zero_or_pos ((ofNat n).length - 1) with h0 | h0
  · rw [h0] at hlt
    omega
  · have hle := (Nat.length_toDigits_le_iff (by decide) h0).2 hlt
    change (ofNat n).length ≤ _ at hle
    omega

theorem length_ofNat_add_length_ofNat_le {m n k : Nat} (hm : 0 < m) (hn : 0 < n)
    (h : m * n < 10 ^ k) : (ofNat m).length + (ofNat n).length ≤ k + 1 := by
  have hpm := length_ofNat_pos m
  have hpn := length_ofNat_pos n
  have hlt : 10 ^ ((ofNat m).length - 1 + ((ofNat n).length - 1)) < 10 ^ k := calc
    _ = 10 ^ ((ofNat m).length - 1) * 10 ^ ((ofNat n).length - 1) := Nat.pow_add ..
    _ ≤ m * n := Nat.mul_le_mul (pow_length_ofNat_le hm) (pow_length_ofNat_le hn)
    _ < 10 ^ k := h
  have hexp := (Nat.pow_lt_pow_iff_right (by decide)).1 hlt
  omega

theorem length_ofInt_le (n : Int) : (ofInt n).length ≤ (ofNat n.natAbs).length + 1 := by
  rw [ofInt]
  split_ifs
  · exact le_rfl
  · exact Nat.le_succ _

end Decimal

open Fraction

theorem length_canonicalText_le {x : ℚ} (h : (lowest x).Proper) :
    (canonicalText x).length ≤ 24 := by
  obtain ⟨hn, hd, -⟩ := h
  have hnum : x.num.natAbs < 10000000000 := by
    simp only [Fits, lowest] at hn
    omega
  have hden : x.den < 10000000000 := by
    simp only [Fits, lowest] at hd
    omega
  have hlen := Operand.length_ofNat_le hnum
  have hlen' := Operand.length_ofNat_le hden
  have hsign := Decimal.length_ofInt_le x.num
  by_cases h1 : x.den = 1
  · rw [canonicalText_of_integral h1]
    omega
  · rcases Nat.lt_or_ge x.num.natAbs x.den with hlt | hle
    · rw [canonicalText_of_lt h1 hlt, List.length_append, List.length_cons]
      omega
    · -- The integral part and the denominator share the ten digits of the numerator.
      have hq : 0 < x.num.natAbs / x.den := Nat.div_pos hle x.den_pos
      have hmul : x.num.natAbs / x.den * x.den < 10 ^ 10 :=
        (Nat.div_mul_le_self _ _).trans_lt hnum
      have hpart := Decimal.length_ofNat_add_length_ofNat_le hq x.den_pos hmul
      have hrest := Operand.length_ofNat_le ((Nat.mod_lt x.num.natAbs x.den_pos).trans hden)
      have hsign' := Decimal.length_ofInt_le (x.num.tdiv x.den)
      rw [natAbs_tdiv_den] at hsign'
      rw [canonicalText_of_le h1 hle, List.length_append, List.length_cons, List.length_append,
        List.length_cons]
      omega

def Operator.neutral : Operator → Int
  | .add => 0
  | .subtract => 0
  | .multiply => 1
  | .divide => 1

theorem evaluate_neutral {f : Fraction} (hf : f.Proper) (op : Operator) :
    f.evaluate op (.whole op.neutral) = .ok f := by
  have hzero : Fits 0 := by decide
  refine (evaluate_eq_ok_iff hf.2.2 (by simp [whole])).2 ⟨?_, ?_, ?_⟩
  · cases op <;>
      simp [Operator.integers, Operator.neutral, whole, hf.1, hf.2.1, hzero]
  · rintro rfl
    simp [whole, Operator.neutral]
  · cases op <;> simp [Operator.pair, Operator.neutral, whole]

theorem neutral_evaluate {f : Fraction} (hf : f.Proper) {op : Operator}
    (h : op = .add ∨ op = .multiply) : (whole op.neutral).evaluate op f = .ok f := by
  have hzero : Fits 0 := by decide
  refine (evaluate_eq_ok_iff (by simp [whole]) hf.2.2).2 ⟨?_, ?_, ?_⟩
  · rcases h with rfl | rfl <;>
      simp [Operator.integers, Operator.neutral, whole, hf.1, hf.2.1, hzero]
  · rintro rfl
    simp at h
  · rcases h with rfl | rfl <;> simp [Operator.pair, Operator.neutral, whole]

theorem text_lowest {x : ℚ} (h : (lowest x).Proper) (hm : x.num ≠ -2147483648) :
    (lowest x).text = .ok (canonicalText x) := by
  rw [text_eq h, toRat_lowest]
  exact if_neg hm

namespace Calculator

variable {c : Calculator} {a b : Text} {l r : Fraction}

theorem exists_lowest_of_answer {input t : Text} (h : c.answer input = .ok t) :
    ∃ x : ℚ, (lowest x).Proper ∧ x.num ≠ -2147483648 ∧ t = canonicalText x := by
  simp only [answer_eq, bind_eq_ok_iff] at h
  obtain ⟨tokens, -, left, hl, right, hr, op, -, value, hv, ht⟩ := h
  have hpl := (Operand.spec_of_value (o := .typed tokens.left) trivial hl).1
  have hpr := (Operand.spec_of_value (o := .typed tokens.right) trivial hr).1
  have hp := proper_of_evaluate hpl hpr hv
  obtain ⟨hm, rfl⟩ := (text_eq_ok_iff hp).1 ht
  exact ⟨value.toRat, proper_lowest hp, num_ne_least hp hm, rfl⟩

theorem parse_answer {input t : Text} (h : c.answer input = .ok t) :
    ∃ f : Fraction, f.Proper ∧ Operand.parse t = .ok f ∧ f.text = .ok t := by
  obtain ⟨x, hp, hm, rfl⟩ := exists_lowest_of_answer h
  exact ⟨lowest x, hp, parse_canonicalText hp hm, text_lowest hp hm⟩

theorem length_answer_le {input t : Text} (h : c.answer input = .ok t) : t.length ≤ 24 := by
  obtain ⟨x, hp, -, rfl⟩ := exists_lowest_of_answer h
  exact length_canonicalText_le hp

theorem answer_line (ha : Operand.parse a = .ok l) (hb : Operand.parse b = .ok r) (op : Operator)
    (h : (Query.line a op b).length ≤ c.maxInputLength) :
    c.answer (Query.line a op b) = (do text (← l.evaluate op r)) := by
  rw [answer_eq, Query.tokenize_line ha hb op h, ok_bind, ha, ok_bind, hb, ok_bind,
    Operator.parse_symbol, ok_bind]

/-- Every answer is short, and is given again by each neutral operation on it. -/
theorem answer_again {input t : Text} (h : c.answer input = .ok t) :
    t.length ≤ 24 ∧ ∀ d : Calculator, t.length + 4 ≤ d.maxInputLength →
      d.answer (Query.line t .add ['0']) = .ok t ∧
      d.answer (Query.line t .subtract ['0']) = .ok t ∧
      d.answer (Query.line t .multiply ['1']) = .ok t ∧
      d.answer (Query.line t .divide ['1']) = .ok t ∧
      d.answer (Query.line ['0'] .add t) = .ok t ∧
      d.answer (Query.line ['1'] .multiply t) = .ok t := by
  obtain ⟨f, hf, hparse, htext⟩ := parse_answer h
  refine ⟨length_answer_le h, ?_⟩
  intro d hd
  have zero : Operand.parse ['0'] = .ok (.whole 0) := by decide +kernel
  have one : Operand.parse ['1'] = .ok (.whole 1) := by decide +kernel
  have after {n : Text} (op : Operator) (hn : n.length = 1)
      (hp : Operand.parse n = .ok (.whole op.neutral)) : d.answer (Query.line t op n) = .ok t := by
    rw [answer_line hparse hp op (by rw [Query.length_line]; omega), evaluate_neutral hf, ok_bind,
      htext]
  have before {n : Text} {op : Operator} (hn : n.length = 1) (ho : op = .add ∨ op = .multiply)
      (hp : Operand.parse n = .ok (.whole op.neutral)) : d.answer (Query.line n op t) = .ok t := by
    rw [answer_line hp hparse op (by rw [Query.length_line]; omega), neutral_evaluate hf ho,
      ok_bind, htext]
  exact ⟨after .add rfl zero, after .subtract rfl zero, after .multiply rfl one,
    after .divide rfl one, before rfl (Or.inl rfl) zero, before rfl (Or.inr rfl) one⟩

theorem answer_again_longest :
    let t := "-1_1073741823/1073741824".toList
    let d : Calculator := ⟨28, []⟩
    answer {} "-2147483647/1073741824 * 1".toList = .ok t ∧ t.length = 24 ∧
      t.length + 4 ≤ d.maxInputLength ∧
      d.answer (Query.line t .add ['0']) = .ok t ∧
      d.answer (Query.line t .subtract ['0']) = .ok t ∧
      d.answer (Query.line t .multiply ['1']) = .ok t ∧
      d.answer (Query.line t .divide ['1']) = .ok t ∧
      d.answer (Query.line ['0'] .add t) = .ok t ∧
      d.answer (Query.line ['1'] .multiply t) = .ok t := by
  intro t d
  have h : answer {} "-2147483647/1073741824 * 1".toList = .ok t := by decide +kernel
  exact ⟨h, by decide, by decide, (answer_again h).2 d (by decide)⟩

end Calculator
end FractionCalculator
