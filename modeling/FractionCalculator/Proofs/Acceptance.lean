import FractionCalculator.Proofs.Rational
import Mathlib.Data.List.Basic

/-!
# Accepted operands

A text is accepted as an operand exactly if it is in one language, and each text
of the language has one pair: a whole number stands over one, a fraction over a
negative denominator is turned, and a mixed number is made improper, its sign that
of its whole part. The pair is not reduced. The digits of a component matter only
through their value, so zeros may lead them while they are ten at most.
-/

namespace FractionCalculator

theorem fits_neg_iff {n : Int} (h : Fits n) : Fits (-n) ↔ n ≠ -2147483648 := by
  unfold Fits at *
  omega

namespace Fraction

theorem mixedNumerator_eq_ok_iff_of_nonneg {w n d m : Int} (hw : w ≠ 0) (hn : 0 ≤ n) (hd : 0 < d) :
    mixedNumerator w n d = .ok m ↔
      w.natAbs * d + n ≤ 2147483647 ∧ m = w.sign * (w.natAbs * d + n) := by
  have hp : (0 : Int) ≤ w.natAbs := Int.natCast_nonneg _
  have hs : (w.natAbs : Int) ≤ w.natAbs * d := le_mul_of_one_le_right hp hd
  rw [mixedNumerator_eq_ok_iff, improper_of_ne_zero hw]
  refine and_congr_left fun _ => ?_
  constructor
  · intro hc
    exact (hc _ (by simp [conversions, hw])).2
  · intro hu k hk
    -- No step before the last one overflows if the numerator does not.
    simp only [conversions, if_neg hw, List.mem_append, List.mem_cons, List.not_mem_nil, or_false,
      List.mem_ite_nil_right] at hk
    rcases hk with (rfl | rfl | rfl) | ⟨-, rfl⟩ <;> constructor <;> omega

theorem denominator_ne_zero_of_mixed {w n d : Int} {f : Fraction} (h : mixed w n d = .ok f) :
    d ≠ 0 := by
  rintro rfl
  obtain ⟨m, -, hm⟩ := mixed_eq_ok_iff.1 h
  exact (toRat_of_ofPair hm).1 rfl

theorem mixed_zero (n : Int) {d : Int} (hd : 0 < d) : mixed 0 n d = .ok ⟨n, d⟩ :=
  mixed_eq_ok_iff.2 ⟨n, mixedNumerator_eq_ok_iff.2 ⟨nofun, rfl⟩, ofPair_of_pos hd⟩

theorem mixed_eq_ok_iff_of_nonneg {w n d : Int} {f : Fraction} (hw : w ≠ 0) (hn : 0 ≤ n)
    (hd : 0 < d) : mixed w n d = .ok f ↔
      w.natAbs * d + n ≤ 2147483647 ∧ f = ⟨w.sign * (w.natAbs * d + n), d⟩ := by
  simp only [mixed_eq_ok_iff, mixedNumerator_eq_ok_iff_of_nonneg hw hn hd, ofPair_of_pos hd,
    Except.ok.injEq]
  constructor
  · rintro ⟨m, ⟨hu, rfl⟩, rfl⟩
    exact ⟨hu, rfl⟩
  · rintro ⟨hu, rfl⟩
    exact ⟨_, ⟨hu, rfl⟩, rfl⟩

end Fraction

namespace Operand

theorem Numeral.nonneg {t : Text} {n : Int} (h : Numeral t n) (hd : IsDigits t) : 0 ≤ n := by
  cases h with
  | unsigned => exact Int.natCast_nonneg _
  | signed => exact absurd rfl hd.head?_ne_minus

/-- The texts that are operands, each with the pair that it is read as. -/
inductive Accepts : Text → Fraction → Prop where
  | whole {t : Text} {w : Int} (hw : Numeral t w) : Accepts t ⟨w, 1⟩
  | fraction {s t : Text} {a b : Int} (ha : Numeral s a) (hb : Numeral t b) (hp : 0 < b) :
    Accepts (s ++ '/' :: t) ⟨a, b⟩
  | turned {s t : Text} {a b : Int} (ha : Numeral s a) (hb : Numeral t b) (hn : b < 0)
    (ha' : a ≠ -2147483648) (hb' : b ≠ -2147483648) : Accepts (s ++ '/' :: t) ⟨-a, -b⟩
  | zeroWhole {s t u : Text} {n d : Int} (hw : Numeral s 0) (hn : Numeral t n) (hd : Numeral u d)
    (ht : IsDigits t) (hu : IsDigits u) (hz : d ≠ 0) :
    Accepts (s ++ '_' :: (t ++ '/' :: u)) ⟨n, d⟩
  | mixed {s t u : Text} {w n d : Int} (hw : Numeral s w) (hn : Numeral t n) (hd : Numeral u d)
    (ht : IsDigits t) (hu : IsDigits u) (hz : d ≠ 0) (hw' : w ≠ 0)
    (hm : w.natAbs * d + n ≤ 2147483647) :
    Accepts (s ++ '_' :: (t ++ '/' :: u)) ⟨w.sign * (w.natAbs * d + n), d⟩

theorem accepts_iff_written {t : Text} {f : Fraction} :
    Accepts t f ↔ ∃ o, Written t o ∧ o.value = .ok f := by
  constructor
  · intro h
    cases h with
    | whole hw => exact ⟨_, .whole hw, rfl⟩
    | fraction ha hb hp => exact ⟨_, .fraction ha hb, Fraction.ofPair_of_pos hp⟩
    | turned ha hb hn ha' hb' =>
      have hf := Fraction.ofPair_eq_ok_iff.2
        (.inr ⟨hn, (fits_neg_iff ha.fits).2 ha', (fits_neg_iff hb.fits).2 hb', rfl⟩)
      exact ⟨_, .fraction ha hb, hf⟩
    | zeroWhole hw hn hd ht hu hz =>
      have hp := lt_of_le_of_ne (hd.nonneg hu) hz.symm
      exact ⟨_, .mixed hw hn hd ht hu, Fraction.mixed_zero _ hp⟩
    | mixed hw hn hd ht hu hz hw' hm =>
      have hp := lt_of_le_of_ne (hd.nonneg hu) hz.symm
      have hf := (Fraction.mixed_eq_ok_iff_of_nonneg hw' (hn.nonneg ht) hp).2 ⟨hm, rfl⟩
      exact ⟨_, .mixed hw hn hd ht hu, hf⟩
  · rintro ⟨o, ho, hf⟩
    cases ho with
    | whole hn =>
      obtain rfl := Except.ok.inj hf
      exact .whole hn
    | fraction hn hd =>
      rcases Fraction.ofPair_eq_ok_iff.1 hf with ⟨hp, rfl⟩ | ⟨hm, hn', hd', rfl⟩
      · exact .fraction hn hd hp
      · exact .turned hn hd hm ((fits_neg_iff hn.fits).1 hn') ((fits_neg_iff hd.fits).1 hd')
    | @mixed s t u w n d hw hn hd ht hu =>
      have hz := Fraction.denominator_ne_zero_of_mixed hf
      have hp := lt_of_le_of_ne (hd.nonneg hu) hz.symm
      by_cases hw' : w = 0
      · subst hw'
        obtain rfl := Except.ok.inj ((Fraction.mixed_zero n hp).symm.trans hf)
        exact .zeroWhole hw hn hd ht hu hz
      · obtain ⟨hm, rfl⟩ := (Fraction.mixed_eq_ok_iff_of_nonneg hw' (hn.nonneg ht) hp).1 hf
        exact .mixed hw hn hd ht hu hz hw' hm

/-! ## Digits of the same value -/

variable {s t u w w' r : Text}

structure Run (u w r : Text) : Prop where
  digits : IsDigits w
  before : ∀ c ∈ u.getLast?, c.isDigit = false
  behind : ∀ c ∈ r.head?, c.isDigit = false

theorem Run.eq_nil_of_digits (h : Run u w r) (hd : ∀ c ∈ u ++ (w ++ r), c.isDigit = true) :
    u = [] ∧ r = [] := by
  constructor
  · cases hu : u.getLast? with
    | none => exact List.getLast?_eq_none_iff.1 hu
    | some c =>
      have hc := hd c (List.mem_append_left _ (List.mem_of_getLast? hu))
      exact absurd rfl (ne_of_isDigit hc (h.before c hu))
  · cases hr : r.head? with
    | none => exact List.head?_eq_none_iff.1 hr
    | some c =>
      have hc := hd c (List.mem_append_right _ (List.mem_append_right _ (List.mem_of_head? hr)))
      exact absurd rfl (ne_of_isDigit hc (h.behind c hr))

theorem Run.of_append (h : Run (s ++ u) w r) : Run u w r :=
  ⟨h.digits, fun c hc => h.before c (List.mem_getLast?_append_of_mem_getLast? hc), h.behind⟩

theorem Run.split {m : Char} (h : Run u w r) (hm : m.isDigit = false)
    (he : s ++ m :: t = u ++ (w ++ r)) :
    (∃ a, u = s ++ m :: a ∧ t = a ++ (w ++ r) ∧ Run a w r) ∨
      ∃ a, r = a ++ m :: t ∧ s = u ++ (w ++ a) ∧ Run u w a := by
  -- The mark is no digit, so it stands before the run or behind it.
  have hw : m ∉ w := h.digits.not_mem hm
  rcases List.append_eq_append_iff.1 he with ⟨a, rfl, ha⟩ | ⟨a, rfl, ha⟩
  · cases a with
    | nil =>
      obtain ⟨c, w, rfl⟩ := List.exists_cons_of_ne_nil h.digits.1
      rw [List.nil_append, List.cons_append, List.cons.injEq] at ha
      exact absurd (ha.1 ▸ List.mem_cons_self) hw
    | cons c a =>
      obtain ⟨rfl, rfl⟩ := List.cons.inj ha
      exact Or.inl ⟨a, rfl, rfl, Run.of_append (s := s ++ [m]) (by simpa using h)⟩
  · rcases List.append_eq_append_iff.1 ha with ⟨b, rfl, hb⟩ | ⟨b, rfl, hb⟩
    · exact Or.inr ⟨b, hb, rfl, h.digits, h.before, fun c hc => h.behind c (by simp_all)⟩
    · cases b with
      | nil =>
        refine Or.inr ⟨[], ?_, ?_, h.digits, h.before, fun c hc => by cases hc⟩
        · simpa using hb.symm
        · simp
      | cons c b =>
        obtain ⟨rfl, -⟩ := List.cons.inj hb
        exact absurd (by simp) hw

theorem isDigits_respell (h : Run u w r) (hd : IsDigits (u ++ (w ++ r))) (hw' : IsDigits w') :
    IsDigits (u ++ (w' ++ r)) := by
  obtain ⟨rfl, rfl⟩ := h.eq_nil_of_digits hd.2
  simpa using hw'

theorem Numeral.respell {n : Int} (h : Run u w r) (hn : Numeral (u ++ (w ++ r)) n)
    (hw' : IsDigits w') (hl : w'.length ≤ 10)
    (hv : Decimal.natValue w = Decimal.natValue w') : Numeral (u ++ (w' ++ r)) n := by
  generalize ht : u ++ (w ++ r) = t at hn
  cases hn with
  | unsigned hd _ hf =>
    obtain ⟨rfl, rfl⟩ := h.eq_nil_of_digits (ht ▸ hd.2)
    obtain rfl : w = t := by simpa using ht
    rw [hv] at hf ⊢
    simpa using Numeral.unsigned hw' hl hf
  | @signed t hd _ hf =>
    cases u with
    | nil =>
      obtain ⟨c, w, rfl⟩ := List.exists_cons_of_ne_nil h.digits.1
      have hc := ne_of_isDigit (d := '-') (h.digits.2 c List.mem_cons_self) rfl
      exact absurd (List.cons.inj ht).1 hc
    | cons c u =>
      rw [List.cons_append, List.cons.injEq] at ht
      obtain ⟨rfl, rfl⟩ := ht
      obtain ⟨rfl, rfl⟩ := (Run.of_append (s := ['-']) h).eq_nil_of_digits hd.2
      simp only [List.nil_append, List.append_nil, hv] at hf ⊢
      exact Numeral.signed hw' hl hf

theorem Written.respell {o : Operand} (h : Run u w r) (ho : Written (u ++ (w ++ r)) o)
    (hw' : IsDigits w') (hl : w'.length ≤ 10)
    (hv : Decimal.natValue w = Decimal.natValue w') : Written (u ++ (w' ++ r)) o := by
  generalize ht : u ++ (w ++ r) = t at ho
  cases ho with
  | whole hn =>
    subst ht
    exact .whole (hn.respell h hw' hl hv)
  | fraction hn hd =>
    rcases h.split rfl ht.symm with ⟨a, rfl, rfl, ha⟩ | ⟨a, rfl, rfl, ha⟩
    · simpa using Written.fraction hn (hd.respell ha hw' hl hv)
    · simpa using Written.fraction (hn.respell ha hw' hl hv) hd
  | mixed hs hn hd ht' hu =>
    rcases h.split rfl ht.symm with ⟨a, rfl, he, ha⟩ | ⟨a, rfl, rfl, ha⟩
    · rcases ha.split rfl he with ⟨b, rfl, rfl, hb⟩ | ⟨b, rfl, rfl, hb⟩
      · simpa using Written.mixed hs hn (hd.respell hb hw' hl hv) ht' (isDigits_respell hb hu hw')
      · simpa using Written.mixed hs (hn.respell hb hw' hl hv) hd (isDigits_respell hb ht' hw') hu
    · simpa using Written.mixed (hs.respell ha hw' hl hv) hn hd ht' hu

theorem natValue_replicate_append (k : Nat) (w : Text) :
    Decimal.natValue (List.replicate k '0' ++ w) = Decimal.natValue w := by
  induction k with
  | zero => rfl
  | succ k ih => simpa [Decimal.natValue, List.replicate_succ, Nat.ofDigitChars_cons] using ih

theorem IsDigits.replicate_append (h : IsDigits w) (k : Nat) :
    IsDigits (List.replicate k '0' ++ w) := by
  refine ⟨by simp [h.1], fun c hc => ?_⟩
  rcases List.mem_append.1 hc with hc | hc
  · rw [List.eq_of_mem_replicate hc]
    rfl
  · exact h.2 c hc

theorem accepts_replicate_append {f : Fraction} {k : Nat} (h : Run u w r)
    (hl : k + w.length ≤ 10) :
    Accepts (u ++ (List.replicate k '0' ++ w ++ r)) f ↔ Accepts (u ++ (w ++ r)) f := by
  have hz := h.digits.replicate_append k
  have hr : Run u (List.replicate k '0' ++ w) r := ⟨hz, h.before, h.behind⟩
  have hv := natValue_replicate_append k w
  simp only [accepts_iff_written]
  constructor
  · rintro ⟨o, ho, hf⟩
    exact ⟨o, ho.respell hr h.digits (by omega) hv, hf⟩
  · rintro ⟨o, ho, hf⟩
    exact ⟨o, ho.respell h hz (by simpa using hl) hv.symm, hf⟩

/-- A text is accepted exactly if it is in the language, as the pair that it has there. Its
components may be led by zeros, to ten digits. -/
theorem parse_accepts (t : Text) (f : Fraction) :
    (parse t = .ok f ↔ Accepts t f) ∧
      ∀ (u w r : Text) (k : Nat), t = u ++ (w ++ r) → Run u w r → k + w.length ≤ 10 →
        (parse (u ++ (List.replicate k '0' ++ w ++ r)) = .ok f ↔ parse t = .ok f) := by
  have accepted (t : Text) : parse t = .ok f ↔ Accepts t f :=
    parse_eq_ok_iff.trans accepts_iff_written.symm
  refine ⟨accepted t, ?_⟩
  rintro u w r k rfl h hl
  rw [accepted, accepted]
  exact accepts_replicate_append h hl

theorem parse_accepts_padded :
    Accepts "-7_3/4".toList ⟨-31, 4⟩ ∧ parse "-0000000007_3/4".toList = .ok ⟨-31, 4⟩ := by
  have hp : parse "-7_3/4".toList = .ok ⟨-31, 4⟩ := by decide +kernel
  have hr : Run ['-'] ['7'] "_3/4".toList :=
    ⟨⟨by simp, by simp⟩, by simp, by simp⟩
  obtain ⟨accepted, padded⟩ := parse_accepts "-7_3/4".toList ⟨-31, 4⟩
  exact ⟨accepted.1 hp, (padded ['-'] ['7'] "_3/4".toList 9 (by decide +kernel) hr (by decide)).2 hp⟩

end Operand
end FractionCalculator
