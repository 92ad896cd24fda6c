import FractionCalculator.Proofs.Acceptance

/-!
# A minus before an operand

A minus in front of an operand's text is a minus on its first component. It turns
a whole number and a fraction into their negatives, and so it does with a mixed
number whose whole part is not zero. Zero has no sign to carry: a mixed number
with a zero whole part is read as if the minus were not there.
-/

namespace FractionCalculator

namespace Fraction

instance : Neg Fraction :=
  ⟨fun f => ⟨-f.numerator, f.denominator⟩⟩

theorem neg_mk (n d : Int) : -(⟨n, d⟩ : Fraction) = ⟨-n, d⟩ :=
  rfl

@[simp] theorem numerator_neg (f : Fraction) : (-f).numerator = -f.numerator :=
  rfl

@[simp] theorem denominator_neg (f : Fraction) : (-f).denominator = f.denominator :=
  rfl

instance : InvolutiveNeg Fraction :=
  ⟨fun f => by rw [neg_mk, numerator_neg, denominator_neg, neg_neg]⟩

theorem ofPair_neg {n d : Int} {f : Fraction} (hn : Fits n) (h : ofPair n d = .ok f) :
    ofPair (-n) d = .ok (-f) := by
  rw [ofPair_eq_ok_iff] at h ⊢
  rcases h with ⟨hp, rfl⟩ | ⟨hm, -, hd, rfl⟩
  · exact Or.inl ⟨hp, rfl⟩
  · exact Or.inr ⟨hm, by rwa [neg_neg], hd, rfl⟩

theorem mixed_neg {w n d : Int} {f : Fraction} (hw : w ≠ 0) (hn : 0 ≤ n) (hd : 0 < d)
    (h : mixed w n d = .ok f) : mixed (-w) n d = .ok (-f) := by
  obtain ⟨hm, rfl⟩ := (mixed_eq_ok_iff_of_nonneg hw hn hd).1 h
  rw [mixed_eq_ok_iff_of_nonneg (neg_ne_zero.2 hw) hn hd, Int.natAbs_neg, Int.sign_neg, neg_mk,
    neg_mul]
  exact ⟨hm, rfl⟩

end Fraction

namespace Operand

def minus : Operand → Operand
  | .whole n => .whole (-n)
  | .fraction n d => .fraction (-n) d
  | .mixed w n d => .mixed (-w) n d
  | .typed t => .typed ('-' :: t)

def StartsWithDigit (t : Text) : Prop :=
  ∃ c ∈ t.head?, c.isDigit = true

def HasZeroWhole (t : Text) : Prop :=
  ∃ n d, Written t (.mixed 0 n d)

variable {s t r : Text} {n : Int} {f : Fraction}

theorem StartsWithDigit.of_append (h : StartsWithDigit (s ++ r)) (hs : s ≠ []) :
    StartsWithDigit s := by
  obtain ⟨c, hc, hd⟩ := h
  rw [List.head?_append_of_ne_nil _ hs] at hc
  exact ⟨c, hc, hd⟩

theorem Numeral.isDigits_of_start (h : Numeral t n) (hs : StartsWithDigit t) : IsDigits t := by
  refine h.isSignedDigits.isDigits fun hm => ?_
  obtain ⟨c, hc, hd⟩ := hs
  exact ne_of_isDigit hd rfl (Option.some.inj (hc.symm.trans hm))

theorem Numeral.minus (h : Numeral t n) (hd : IsDigits t) : Numeral ('-' :: t) (-n) := by
  cases h with
  | unsigned _ hl hf =>
    refine .signed hd hl ?_
    obtain ⟨-, hu⟩ := hf
    exact ⟨by omega, by omega⟩
  | signed => exact absurd rfl hd.head?_ne_minus

theorem Numeral.isDigits_of_append_start (h : Numeral s n) (hs : StartsWithDigit (s ++ r)) :
    IsDigits s := by
  refine h.isDigits_of_start (hs.of_append ?_)
  cases h with
  | unsigned hd => exact hd.1
  | signed => exact List.cons_ne_nil _ _

theorem Written.minus {o : Operand} (h : Written t o) (hs : StartsWithDigit t) :
    Written ('-' :: t) o.minus := by
  cases h with
  | whole hn => exact .whole (hn.minus (hn.isDigits_of_start hs))
  | fraction hn hd => exact .fraction (hn.minus (hn.isDigits_of_append_start hs)) hd
  | mixed hw hn hd ht hu => exact .mixed (hw.minus (hw.isDigits_of_append_start hs)) hn hd ht hu

theorem value_minus_of_zero_whole {n d : Int} (h : (Operand.mixed 0 n d).value = .ok f) :
    (Operand.mixed 0 n d).minus.value = .ok f :=
  h

theorem Written.value_minus {o : Operand} (h : Written t o) (hz : ¬HasZeroWhole t)
    (hf : o.value = .ok f) : o.minus.value = .ok (-f) := by
  cases h with
  | whole hn =>
    obtain rfl := Except.ok.inj hf
    rfl
  | fraction hn hd => exact Fraction.ofPair_neg hn.fits hf
  | @mixed s t u w n d hw hn hd ht hu =>
    have hw' : w ≠ 0 := by
      rintro rfl
      exact hz ⟨n, d, .mixed hw hn hd ht hu⟩
    have hz := Fraction.denominator_ne_zero_of_mixed hf
    exact Fraction.mixed_neg hw' (hn.nonneg ht) (lt_of_le_of_ne (hd.nonneg hu) hz.symm) hf

/-- A minus before an operand negates it, except that a mixed number with a zero whole part stays
what it is. -/
theorem parse_minus (hs : StartsWithDigit t) (h : parse t = .ok f) :
    (¬HasZeroWhole t → parse ('-' :: t) = .ok (-f)) ∧
      (HasZeroWhole t → parse ('-' :: t) = .ok f) := by
  obtain ⟨o, ho, hf⟩ := parse_eq_ok_iff.1 h
  constructor
  · intro hz
    exact parse_eq_ok_iff.2 ⟨o.minus, ho.minus hs, ho.value_minus hz hf⟩
  · rintro ⟨n, d, hz⟩
    obtain rfl := ho.unique hz
    exact parse_eq_ok_iff.2 ⟨_, ho.minus hs, value_minus_of_zero_whole hf⟩

theorem parse_minus_either :
    StartsWithDigit "7/-3".toList ∧ parse ('-' :: "7/-3".toList) = .ok ⟨7, 3⟩ ∧
      StartsWithDigit "00_3/4".toList ∧ parse ('-' :: "00_3/4".toList) = .ok ⟨3, 4⟩ := by
  have turned : StartsWithDigit "7/-3".toList := ⟨'7', by decide +kernel, by decide⟩
  have mixed : StartsWithDigit "00_3/4".toList := ⟨'0', by decide +kernel, by decide⟩
  have hz : ¬HasZeroWhole "7/-3".toList := by
    rintro ⟨n, d, h⟩
    have hm : '_' ∉ "7/-3".toList := by decide +kernel
    generalize "7/-3".toList = t at h hm
    cases h
    simp at hm
  have hw : HasZeroWhole "00_3/4".toList := by
    have he : "00_3/4".toList = ['0', '0'] ++ '_' :: (['3'] ++ '/' :: ['4']) := by decide +kernel
    have numeral {t : Text} {n : Int} (h : parseInteger t = .ok n) := parseInteger_eq_ok_iff.1 h
    rw [he]
    exact ⟨3, 4, .mixed (numeral (by decide +kernel)) (numeral (by decide +kernel))
      (numeral (by decide +kernel)) ⟨by simp, by simp⟩ ⟨by simp, by simp⟩⟩
  have hn : -(⟨-7, 3⟩ : Fraction) = ⟨7, 3⟩ := by decide
  rw [← hn]
  exact ⟨turned, (parse_minus (f := ⟨-7, 3⟩) turned (by decide +kernel)).1 hz, mixed,
    (parse_minus (f := ⟨3, 4⟩) mixed (by decide +kernel)).2 hw⟩

theorem parse_minus_zero_whole :
    let t := "0_1/2".toList
    StartsWithDigit t ∧ parse t = .ok ⟨1, 2⟩ ∧ parse ('-' :: t) ≠ .ok (-⟨1, 2⟩) := by
  intro t
  exact ⟨⟨'0', by decide +kernel, by decide⟩, by decide +kernel, by decide +kernel⟩

end Operand
end FractionCalculator
