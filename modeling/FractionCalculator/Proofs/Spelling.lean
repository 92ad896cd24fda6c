import FractionCalculator.Proofs.Acceptance
import FractionCalculator.Proofs.Arithmetic
import FractionCalculator.Proofs.Canonical

/-!
# Spellings of a number

The canonical text of a number is a written form of its pair in lowest terms, so
reading a text that was written gives that pair, whose text is the same again.
What an operation answers depends on the numbers of its operands alone; which
multiples of the lowest terms they are decides only whether some integer on the
way is too large, and lowest terms never lose an answer.
-/

namespace FractionCalculator

open Fraction

theorem natAbs_tdiv_den (x : ℚ) : (x.num.tdiv x.den).natAbs = x.num.natAbs / x.den := by
  rw [Int.natAbs_tdiv, Int.natAbs_natCast]
  rfl

theorem tdiv_den_ne_zero {x : ℚ} (h : x.den ≤ x.num.natAbs) : x.num.tdiv x.den ≠ 0 := by
  have hq := natAbs_tdiv_den x
  have hpos : 0 < x.num.natAbs / x.den := Nat.div_pos h x.den_pos
  omega

theorem sign_tdiv_den {x : ℚ} (h : x.den ≤ x.num.natAbs) :
    (x.num.tdiv x.den).sign = x.num.sign := by
  have hp : (0 : Int) < x.den := Int.natCast_pos.2 x.den_pos
  rw [Int.sign_tdiv, Int.natAbs_natCast, if_neg (not_lt.2 h), Int.sign_eq_one_of_pos hp,
    Int.mul_one]

theorem natAbs_tdiv_den_mul_add (x : ℚ) :
    ((x.num.tdiv x.den).natAbs : Int) * x.den + (x.num.natAbs % x.den : Nat) = x.num.natAbs := by
  rw [natAbs_tdiv_den]
  exact_mod_cast Nat.div_add_mod' x.num.natAbs x.den

theorem mixed_lowest {x : ℚ} (hn : Fits x.num) (hm : x.num ≠ -2147483648)
    (hle : x.den ≤ x.num.natAbs) :
    mixed (x.num.tdiv x.den) (x.num.natAbs % x.den : Nat) x.den = .ok (lowest x) := by
  have hp : (0 : Int) < x.den := Int.natCast_pos.2 x.den_pos
  have ha : Fits x.num.natAbs := (fits_natAbs_iff hn).2 hm
  rw [mixed_eq_ok_iff_of_nonneg (tdiv_den_ne_zero hle) (Int.natCast_nonneg _) hp,
    natAbs_tdiv_den_mul_add, sign_tdiv_den hle, Int.sign_mul_natAbs]
  exact ⟨ha.2, rfl⟩

theorem parse_canonicalText {x : ℚ} (h : (lowest x).Proper) (hm : x.num ≠ -2147483648) :
    Operand.parse (canonicalText x) = .ok (lowest x) := by
  obtain ⟨hn, hd, hp⟩ := h
  rw [Operand.parse_eq_ok_iff]
  by_cases h1 : x.den = 1
  · refine ⟨.whole x.num, ?_, ?_⟩
    · rw [canonicalText_of_integral h1]
      exact .whole (Operand.numeral_ofInt hn)
    · simp [Operand.value, whole, lowest, h1]
  · rcases Nat.lt_or_ge x.num.natAbs x.den with hlt | hle
    · refine ⟨.fraction x.num x.den, ?_, ofPair_of_pos hp⟩
      rw [canonicalText_of_lt h1 hlt]
      exact .fraction (Operand.numeral_ofInt hn) (Operand.numeral_ofNat hd)
    · refine ⟨.mixed (x.num.tdiv x.den) (x.num.natAbs % x.den : Nat) x.den, ?_, ?_⟩
      · rw [canonicalText_of_le h1 hle]
        exact .mixed (Operand.numeral_ofInt (fits_tdiv hm hn x.den))
          (Operand.numeral_ofNat (fits_natAbs_mod hm hn x.den))
          (Operand.numeral_ofNat hd) (Operand.isDigits_ofNat _) (Operand.isDigits_ofNat _)
      · exact mixed_lowest hn hm hle

theorem parse_of_text {f : Fraction} (h : f.Proper) (hm : f.numerator ≠ -2147483648) :
    (do Operand.parse (← f.text)) = .ok (lowest f.toRat) := by
  rw [text_eq h, if_neg hm, ok_bind, parse_canonicalText (proper_lowest h) (num_ne_least h hm)]

/-- What is written is read back in lowest terms, zero over one, and written again. -/
theorem parse_text {v : Fraction} (hv : Constructed v) (hm : v.numerator ≠ -2147483648) :
    ∃ t w, v.text = .ok t ∧ Operand.parse t = .ok w ∧
      (v.numerator ≠ 0 → v.reduce = .ok w) ∧ (v.numerator = 0 → w = ⟨0, 1⟩) ∧
      w.text = .ok t := by
  have hp := proper_lowest hv.proper
  have hx := num_ne_least hv.proper hm
  refine ⟨canonicalText v.toRat, lowest v.toRat, ?_, parse_canonicalText hp hx, ?_, ?_, ?_⟩
  · rw [text_eq hv.proper, if_neg hm]
  · intro hz
    rw [reduce_eq hv.proper, if_neg hm, if_neg hz]
  · intro hz
    rw [(toRat_eq_zero_iff hv.proper.2.2).2 hz]
    rfl
  · have ht := (text_eq hp).trans (if_neg hx)
    rwa [toRat_lowest] at ht

theorem parse_text_boundary :
    ∃ t w, text ⟨-2147483647, 2147483646⟩ = .ok t ∧ Operand.parse t = .ok w ∧
      ((-2147483647 : Int) ≠ 0 → reduce ⟨-2147483647, 2147483646⟩ = .ok w) ∧
      ((-2147483647 : Int) = 0 → w = ⟨0, 1⟩) ∧ w.text = .ok t :=
  parse_text (.given (o := .fraction (-2147483647) 2147483646) ⟨by decide, by decide⟩ (by decide))
    (by decide)

variable {l r : Fraction}

theorem text_evaluate_eq_ok_iff (hl : l.Proper) (hr : r.Proper) {op : Operator} {t : Text} :
    (do text (← l.evaluate op r)) = .ok t ↔ ∃ v, l.evaluate op r = .ok v ∧
      v.numerator ≠ -2147483648 ∧ canonicalText v.toRat = t := by
  rw [bind_eq_ok_iff]
  exact exists_congr fun v => and_congr_right fun hv =>
    text_eq_ok_iff (proper_of_evaluate hl hr hv)

theorem text_evaluate_congr {l' r' : Fraction} (hl : l.Proper) (hr : r.Proper) (hl' : l'.Proper)
    (hr' : r'.Proper) (hll : l.toRat = l'.toRat) (hrr : r.toRat = r'.toRat) {op : Operator}
    {t t' : Text} (h : (do text (← l.evaluate op r)) = .ok t)
    (h' : (do text (← l'.evaluate op r')) = .ok t') : t = t' := by
  obtain ⟨v, hv, -, rfl⟩ := (text_evaluate_eq_ok_iff hl hr).1 h
  obtain ⟨v', hv', -, rfl⟩ := (text_evaluate_eq_ok_iff hl' hr').1 h'
  have hx := value?_of_evaluate hl hr hv
  rw [hll, hrr, value?_of_evaluate hl' hr' hv'] at hx
  rw [Option.some.inj hx]

theorem text_evaluate_lowest (hl : l.Proper) (hr : r.Proper) {op : Operator} {t : Text}
    (h : (do text (← l.evaluate op r)) = .ok t) :
    (do text (← (lowest l.toRat).evaluate op (lowest r.toRat))) = .ok t := by
  obtain ⟨v, hv, hm, rfl⟩ := (text_evaluate_eq_ok_iff hl hr).1 h
  have hpl := proper_lowest hl
  have hpr := proper_lowest hr
  have hpv := proper_of_evaluate hl hr hv
  obtain ⟨k, hk, hlk⟩ := exists_eq_scale_lowest hl.2.2
  obtain ⟨m, hm', hrm⟩ := exists_eq_scale_lowest hr.2.2
  rw [hlk, hrm] at hv
  obtain ⟨u, hu, rfl⟩ := evaluate_of_scale hk hm' hpl.2.2 hpr.2.2 hv
  have hkm : 0 < k * m := Int.mul_pos hk hm'
  refine (text_evaluate_eq_ok_iff hpl hpr).2 ⟨u, hu, ne_least_of_mul hkm hpv.1 hm, ?_⟩
  rw [toRat_scale hkm.ne']

/-- An answer does not depend on the spelling of its operands, and the canonical spelling has it
wherever another spelling has. -/
theorem spelling_independent (hl : Constructed l) (hr : Constructed r) {op : Operator} {t : Text}
    (h : (do text (← l.evaluate op r)) = .ok t) :
    (∀ l' r' t', Constructed l' → Constructed r' → l'.toRat = l.toRat → r'.toRat = r.toRat →
      (do text (← l'.evaluate op r')) = .ok t' → t' = t) ∧
    (l.numerator ≠ -2147483648 → r.numerator ≠ -2147483648 →
      ∃ lc rc, (do Operand.parse (← l.text)) = .ok lc ∧ (do Operand.parse (← r.text)) = .ok rc ∧
        (do text (← lc.evaluate op rc)) = .ok t) := by
  constructor
  · intro l' r' t' hl' hr' hll hrr h'
    exact text_evaluate_congr hl'.proper hr'.proper hl.proper hr.proper hll hrr h' h
  · intro hml hmr
    refine ⟨lowest l.toRat, lowest r.toRat, ?_, ?_, text_evaluate_lowest hl.proper hr.proper h⟩
    · exact parse_of_text hl.proper hml
    · exact parse_of_text hr.proper hmr

theorem spelling_independent_quotient :
    (do text (← evaluate ⟨2, 4⟩ .divide ⟨-3, 6⟩)) = .ok ['-', '1'] ∧
    (∀ l' r' t', Constructed l' → Constructed r' → l'.toRat = toRat ⟨2, 4⟩ →
      r'.toRat = toRat ⟨-3, 6⟩ → (do text (← l'.evaluate .divide r')) = .ok t' → t' = ['-', '1']) ∧
    ((2 : Int) ≠ -2147483648 → (-3 : Int) ≠ -2147483648 →
      ∃ lc rc, (do Operand.parse (← text ⟨2, 4⟩)) = .ok lc ∧
        (do Operand.parse (← text ⟨-3, 6⟩)) = .ok rc ∧
        (do text (← lc.evaluate .divide rc)) = .ok ['-', '1']) := by
  have h : (do text (← evaluate ⟨2, 4⟩ .divide ⟨-3, 6⟩)) = .ok ['-', '1'] := by decide +kernel
  exact ⟨h, spelling_independent (constructed_iff_proper.2 (by decide))
    (constructed_iff_proper.2 (by decide)) h⟩

end FractionCalculator
