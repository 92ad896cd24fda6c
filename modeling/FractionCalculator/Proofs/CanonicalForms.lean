import FractionCalculator.Proofs.Symmetry
import Mathlib.Data.Nat.GCD.Basic

/-!
# The language of answers

A canonical text is 0, or a positive number in one of three forms, a minus before
it or not: an integer, a proper fraction in lowest terms, an integral part beside
such a fraction. Its numbers are in decimal, without leading zeros, and improper
its numerator would not exceed the greatest component. These are the texts that are
written, and the only ones that reading and writing leave as they are; each of them
stands for one number.
-/

namespace FractionCalculator

open Fraction

variable {t : Text} {k n d : Nat} {x y : ℚ}

namespace Decimal

structure Plain (t : Text) (k : Nat) : Prop where
  digits : Operand.IsDigits t
  head : t.head? ≠ some '0'
  value : natValue t = k

theorem head?_ofNat_ne_zero (h : 0 < k) : (ofNat k).head? ≠ some '0' := by
  unfold ofNat
  induction k using Nat.base_induction 10 (by decide) with
  | single m hm => simpa [Nat.toDigits_of_lt_base hm] using h.ne'
  | digit m k hk hm ih =>
    rw [← Nat.toDigits_append_toDigits (by decide) hm hk,
      List.head?_append_of_ne_nil _ Nat.toDigits_ne_nil]
    exact ih hm

theorem toDigits_digit {c : Char} (h : c.isDigit = true) :
    c.toNat - 48 < 10 ∧ Nat.toDigits 10 (c.toNat - 48) = [c] := by
  have hb : 48 ≤ c.toNat ∧ c.toNat ≤ 57 := by
    simpa [Char.isDigit, UInt32.le_iff_toNat_le] using h
  have hlt : c.toNat - 48 < 10 := by omega
  refine ⟨hlt, ?_⟩
  rw [Nat.toDigits_of_lt_base hlt, List.cons.injEq, ← Char.toNat_inj,
    Nat.toNat_digitChar_of_lt_ten hlt]
  exact ⟨by omega, rfl⟩

theorem toDigits_append (hk : 0 < k) (hd : ∀ c ∈ t, c.isDigit = true) :
    Nat.toDigits 10 k ++ t = Nat.toDigits 10 (Nat.ofDigitChars 10 t k) := by
  induction t generalizing k with
  | nil => simp
  | cons c t ih =>
    obtain ⟨hlt, hc⟩ := toDigits_digit (hd c List.mem_cons_self)
    have hd' : ∀ c ∈ t, c.isDigit = true := fun c hm => hd c (List.mem_cons_of_mem _ hm)
    calc
      Nat.toDigits 10 k ++ c :: t = (Nat.toDigits 10 k ++ [c]) ++ t := by simp
      _ = Nat.toDigits 10 (10 * k + (c.toNat - 48)) ++ t := by
        rw [← Nat.toDigits_append_toDigits (by decide) hk hlt, hc]
      _ = Nat.toDigits 10 (Nat.ofDigitChars 10 (c :: t) k) := by
        rw [ih (by omega) hd', Nat.ofDigitChars_cons]
        rfl

theorem plain_iff : Plain t k ↔ 0 < k ∧ t = ofNat k := by
  constructor
  · rintro ⟨⟨hne, hd⟩, hz, rfl⟩
    obtain ⟨c, t, rfl⟩ := List.exists_cons_of_ne_nil hne
    obtain ⟨-, hc⟩ := toDigits_digit (hd c List.mem_cons_self)
    have hpos : 0 < c.toNat - 48 := by
      refine Nat.pos_of_ne_zero fun h0 => hz ?_
      rw [h0, Nat.toDigits_zero] at hc
      exact congrArg List.head? hc.symm
    have ht := toDigits_append hpos fun c hm => hd c (List.mem_cons_of_mem _ hm)
    have he : c :: t = ofNat (natValue (c :: t)) := by
      rw [hc] at ht
      simpa [ofNat, natValue, Nat.ofDigitChars_cons] using ht
    refine ⟨Nat.pos_of_ne_zero fun h0 => hz ?_, he⟩
    rw [h0] at he
    rw [he]
    rfl
  · rintro ⟨hk, rfl⟩
    exact ⟨Operand.isDigits_ofNat k, head?_ofNat_ne_zero hk, natValue_ofNat k⟩

end Decimal

open Decimal (Plain plain_iff)

inductive UnsignedForm : Text → Prop where
  | whole {t : Text} {k : Nat} (hk : Plain t k) (hle : k ≤ 2147483647) : UnsignedForm t
  | fraction {s t : Text} {n d : Nat} (hn : Plain s n) (hd : Plain t d) (hlt : n < d)
    (hle : d ≤ 2147483647) (hc : n.Coprime d) : UnsignedForm (s ++ '/' :: t)
  | mixed {s t u : Text} {q r d : Nat} (hq : Plain s q) (hr : Plain t r) (hd : Plain u d)
    (hlt : r < d) (hle : q * d + r ≤ 2147483647) (hc : r.Coprime d) :
    UnsignedForm (s ++ '_' :: (t ++ '/' :: u))

inductive CanonicalForm : Text → Prop where
  | zero : CanonicalForm ['0']
  | positive {t : Text} (h : UnsignedForm t) : CanonicalForm t
  | negative {t : Text} (h : UnsignedForm t) : CanonicalForm ('-' :: t)

/-! ## The canonical text of a number -/

/-- The numbers that have a text: numerator and denominator in lowest terms are no greater than the
greatest component. -/
def Writable (x : ℚ) : Prop :=
  x.num.natAbs ≤ 2147483647 ∧ x.den ≤ 2147483647

theorem writable_iff : Writable x ↔ (lowest x).Proper ∧ x.num ≠ -2147483648 := by
  have hp := x.den_pos
  simp only [Writable, Proper, lowest, Fits]
  omega

theorem Writable.neg (h : Writable x) : Writable (-x) := by
  simpa [Writable] using h

theorem canonicalText_of_num (h : x.num = n) :
    canonicalText x =
      if x.den = 1 then Decimal.ofNat n
      else if n < x.den then Decimal.ofNat n ++ '/' :: Decimal.ofNat x.den
      else Decimal.ofNat (n / x.den) ++
        '_' :: (Decimal.ofNat (n % x.den) ++ '/' :: Decimal.ofNat x.den) := by
  have ha : x.num.natAbs = n := by omega
  split_ifs with h1 hlt
  · rw [canonicalText_of_integral h1, h, Decimal.ofInt_natCast]
  · rw [canonicalText_of_lt h1 (ha ▸ hlt), h, Decimal.ofInt_natCast]
  · rw [canonicalText_of_le h1 (ha ▸ Nat.not_lt.1 hlt), ha, h, ← Int.ofNat_tdiv,
      Decimal.ofInt_natCast]

theorem exists_quotient (hd : 0 < d) (hc : n.Coprime d) :
    ∃ x : ℚ, x.num = n ∧ x.den = d :=
  ⟨⟨n, d, hd.ne', hc⟩, rfl, rfl⟩

theorem exists_of_unsignedForm (h : UnsignedForm t) :
    ∃ x : ℚ, 0 < x ∧ Writable x ∧ canonicalText x = t := by
  -- It is enough to find the lowest terms.
  suffices ∃ x : ℚ, ∃ n : Nat, 0 < n ∧ n ≤ 2147483647 ∧ x.num = n ∧ x.den ≤ 2147483647 ∧
      canonicalText x = t by
    obtain ⟨x, n, hp, hn, hx, hd, ht⟩ := this
    exact ⟨x, Rat.num_pos.1 (by omega), ⟨by omega, hd⟩, ht⟩
  cases h with
  | @whole _ k hk hle =>
    obtain ⟨hp, rfl⟩ := plain_iff.1 hk
    obtain ⟨x, hx, h1⟩ := exists_quotient Nat.one_pos (Nat.coprime_one_right k)
    refine ⟨x, k, hp, hle, hx, by omega, ?_⟩
    rw [canonicalText_of_num hx, if_pos h1]
  | @fraction _ _ n d hn hd hlt hle hc =>
    obtain ⟨hp, rfl⟩ := plain_iff.1 hn
    obtain ⟨hp', rfl⟩ := plain_iff.1 hd
    obtain ⟨x, hx, rfl⟩ := exists_quotient hp' hc
    refine ⟨x, n, hp, by omega, hx, hle, ?_⟩
    rw [canonicalText_of_num hx, if_neg (by omega), if_pos hlt]
  | @mixed _ _ _ q r d hq hr hd hlt hle hc =>
    obtain ⟨hpq, rfl⟩ := plain_iff.1 hq
    obtain ⟨hpr, rfl⟩ := plain_iff.1 hr
    obtain ⟨hpd, rfl⟩ := plain_iff.1 hd
    have hdle : d ≤ q * d := Nat.le_mul_of_pos_left d hpq
    have hc' : (q * d + r).Coprime d := (Nat.coprime_mul_right_add_left r d q).2 hc
    obtain ⟨x, hx, rfl⟩ := exists_quotient hpd hc'
    obtain ⟨hdiv, hmod⟩ := (Nat.div_mod_unique (a := q * x.den + r) (c := r) (d := q) hpd).2
      ⟨by rw [Nat.add_comm, Nat.mul_comm], hlt⟩
    refine ⟨x, q * x.den + r, by omega, hle, hx, by omega, ?_⟩
    rw [canonicalText_of_num hx, if_neg (by omega), if_neg (by omega), hdiv, hmod]

theorem unsignedForm_of_pos (hp : 0 < x) (hw : Writable x) : UnsignedForm (canonicalText x) := by
  obtain ⟨n, hn⟩ := Int.eq_ofNat_of_zero_le (Rat.num_pos.2 hp).le
  have hpos : 0 < n := by
    have := Rat.num_pos.2 hp
    omega
  have ha : x.num.natAbs = n := by omega
  obtain ⟨hle, hd⟩ := hw
  have hden := plain_iff.2 ⟨x.den_pos, rfl⟩
  rw [canonicalText_of_num hn]
  split_ifs with h1 hlt
  · exact .whole (plain_iff.2 ⟨hpos, rfl⟩) (by omega)
  · exact .fraction (plain_iff.2 ⟨hpos, rfl⟩) hden hlt hd (ha ▸ x.reduced)
  · obtain ⟨hr, hlt', hc⟩ := remainder_spec h1
    rw [ha] at hr hlt' hc
    have hq : 0 < n / x.den := Nat.div_pos (Nat.not_lt.1 hlt) x.den_pos
    refine .mixed (plain_iff.2 ⟨hq, rfl⟩) (plain_iff.2 ⟨hr, rfl⟩) hden hlt' ?_ hc
    rw [Nat.div_add_mod']
    omega

theorem canonicalForm_iff : CanonicalForm t ↔ ∃ x : ℚ, Writable x ∧ canonicalText x = t := by
  constructor
  · intro h
    cases h with
    | zero => exact ⟨0, by simp [Writable], rfl⟩
    | positive h =>
      obtain ⟨x, -, hw, ht⟩ := exists_of_unsignedForm h
      exact ⟨x, hw, ht⟩
    | negative h =>
      obtain ⟨x, hp, hw, rfl⟩ := exists_of_unsignedForm h
      exact ⟨-x, hw.neg, canonicalText_neg_of_pos hp⟩
  · rintro ⟨x, hw, rfl⟩
    rcases lt_trichotomy x 0 with hx | rfl | hx
    · rw [canonicalText_of_neg hx]
      exact .negative (unsignedForm_of_pos (neg_pos.2 hx) hw.neg)
    · exact .zero
    · exact .positive (unsignedForm_of_pos hx hw)

/-- A canonical text is read as the lowest terms of its number, so two numbers do not share one. -/
theorem canonicalText_inj (hx : Writable x) (hy : Writable y) :
    canonicalText x = canonicalText y ↔ x = y := by
  constructor
  · intro h
    obtain ⟨hpx, hmx⟩ := writable_iff.1 hx
    obtain ⟨hpy, hmy⟩ := writable_iff.1 hy
    have hl : lowest x = lowest y := Except.ok.inj <| calc
      _ = Operand.parse (canonicalText x) := (parse_canonicalText hpx hmx).symm
      _ = Operand.parse (canonicalText y) := by rw [h]
      _ = .ok (lowest y) := parse_canonicalText hpy hmy
    rw [← toRat_lowest x, hl, toRat_lowest]
  · rintro rfl
    rfl

namespace Fraction

variable {f : Fraction}

theorem Proper.writable (h : f.Proper) (hm : f.numerator ≠ -2147483648) : Writable f.toRat :=
  writable_iff.2 ⟨proper_lowest h, num_ne_least h hm⟩

theorem canonicalForm_of_text (h : f.Proper) (ht : f.text = .ok t) : CanonicalForm t := by
  obtain ⟨hm, hx⟩ := (text_eq_ok_iff h).1 ht
  exact canonicalForm_iff.2 ⟨f.toRat, h.writable hm, hx⟩

end Fraction

theorem CanonicalForm.exists_lowest (h : CanonicalForm t) :
    ∃ f : Fraction, f.Proper ∧ Operand.parse t = .ok f ∧ f.text = .ok t := by
  obtain ⟨x, hw, rfl⟩ := canonicalForm_iff.1 h
  obtain ⟨hp, hm⟩ := writable_iff.1 hw
  refine ⟨lowest x, hp, parse_canonicalText hp hm, (text_eq_ok_iff hp).2 ⟨hm, ?_⟩⟩
  rw [toRat_lowest]

/-- The texts that are written are the canonical ones, these are the ones that reading and writing
leaves as they are, and equal texts are texts of equal numbers. -/
theorem texts_canonical :
    (∀ t, (∃ v, Constructed v ∧ v.text = .ok t) ↔ CanonicalForm t) ∧
    (∀ t, (do text (← Operand.parse t)) = .ok t ↔ CanonicalForm t) ∧
    ∀ v w, Constructed v → Constructed w → v.numerator ≠ -2147483648 →
      w.numerator ≠ -2147483648 → ((∃ t, v.text = .ok t ∧ w.text = .ok t) ↔ v.toRat = w.toRat) := by
  refine ⟨?_, ?_, ?_⟩
  · intro t
    constructor
    · rintro ⟨v, hv, ht⟩
      exact canonicalForm_of_text hv.proper ht
    · intro h
      obtain ⟨f, hf, -, ht⟩ := h.exists_lowest
      exact ⟨f, constructed_iff_proper.2 hf, ht⟩
  · intro t
    constructor
    · intro h
      obtain ⟨f, hf, ht⟩ := bind_eq_ok_iff.1 h
      exact canonicalForm_of_text (Operand.spec_of_value (o := .typed t) trivial hf).1 ht
    · intro h
      obtain ⟨f, -, hf, ht⟩ := h.exists_lowest
      rw [hf, ok_bind, ht]
  · intro v w hv hw hmv hmw
    have hxv := hv.proper.writable hmv
    have hxw := hw.proper.writable hmw
    simp only [text_eq_ok_iff hv.proper, text_eq_ok_iff hw.proper, hmv, hmw, ne_eq,
      not_false_eq_true, true_and, exists_eq_left']
    rw [eq_comm, canonicalText_inj hxv hxw]

theorem texts_canonical_negative :
    CanonicalForm "-2_1/3".toList ∧ ¬CanonicalForm "-7/3".toList ∧
      ¬CanonicalForm "-2_01/3".toList ∧
      ∃ t, text ⟨-14, 6⟩ = .ok t ∧ text ⟨-7, 3⟩ = .ok t := by
  obtain ⟨-, fixed, same⟩ := texts_canonical
  refine ⟨(fixed _).1 (by decide +kernel), mt (fixed _).2 (by decide +kernel),
    mt (fixed _).2 (by decide +kernel), ?_⟩
  have hv : Constructed ⟨-14, 6⟩ := constructed_iff_proper.2 (by decide)
  have hw : Constructed ⟨-7, 3⟩ := constructed_iff_proper.2 (by decide)
  apply (same _ _ hv hw (by decide) (by decide)).2
  norm_num [toRat]

end FractionCalculator
