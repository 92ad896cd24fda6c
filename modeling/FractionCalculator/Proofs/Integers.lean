import FractionCalculator.Proofs.Reasons
import Mathlib.Tactic.Ring

/-!
# Integers in writing

A text is read as one component, is an integer that is too large, or is no integer
at all, and its characters decide which. Three tests tell these apart: the form, the
number of digits, and a conversion that goes on digit by digit and checks each
product and each sum. Away from zero every step leads further, so an integer on the
way is out of range only if the last one is, on either side.
-/

namespace FractionCalculator.Operand

/-- The number that digits write by their places, the last one counting once. -/
def placeValue : Text → Nat
  | [] => 0
  | c :: t => (c.toNat - '0'.toNat) * 10 ^ t.length + placeValue t

/-- A text of digits, after a minus or not, and the integer that it denotes, of any size. -/
inductive Denotes : Text → Int → Prop where
  | unsigned {t : Text} (h : IsDigits t) : Denotes t (placeValue t)
  | signed {t : Text} (h : IsDigits t) : Denotes ('-' :: t) (-placeValue t)

/-- The faults of a text that is no integer. -/
inductive Misshapen (t : Text) : Prop where
  | noDigit (h : ∀ c ∈ t, c.isDigit = false)
  | foreign {c : Char} (h : c ∈ t) (hd : c.isDigit = false) (hm : c ≠ '-')
  | innerMinus (h : '-' ∈ t.tail)

def extend (step : Step) (sign n : Int) (c : Char) : Except Rejection Int := do
  let scaled ← step.checked (n * 10)
  step.checked (scaled + sign * (c.toNat - '0'.toNat : Nat))

def convert (t : Text) : Except Rejection Int :=
  match Decimal.splitSign t with
  | ([], digits) => digits.foldlM (extend (Step.integer t) 1) 0
  | (_, digits) => digits.foldlM (extend (Step.integer t) (-1)) 0

/-- The form, the digits behind all minuses, and the conversion, one test after another. -/
def parseByTests (t : Text) : Except Rejection Int :=
  if isInteger t = false then .error (.malformedOperand .whole t)
  else if maxDigits < (t.dropWhile (· = '-')).length then .error (Step.integer t).overflow
  else convert t

variable {t : Text} {n : Int}

/-! ## The integer of a text -/

theorem natValue_eq_placeValue (t : Text) : Decimal.natValue t = placeValue t := by
  induction t with
  | nil => rfl
  | cons c t ih =>
    rw [placeValue, ← ih, Decimal.natValue, Nat.ofDigitChars_cons,
      Nat.ofDigitChars_eq_ofDigitChars_zero, Nat.mul_zero, Nat.zero_add, Nat.mul_comm]
    rfl

theorem value_minus (t : Text) : Decimal.value ('-' :: t) = -Decimal.natValue t :=
  rfl

theorem denotes_iff : Denotes t n ↔ IsSignedDigits t ∧ n = Decimal.value t := by
  constructor
  · intro h
    cases h with
    | unsigned h =>
      rw [value_of_isDigits h, natValue_eq_placeValue]
      exact ⟨.unsigned h, rfl⟩
    | signed h =>
      rw [value_minus, natValue_eq_placeValue]
      exact ⟨.signed h, rfl⟩
  · rintro ⟨h, rfl⟩
    cases h with
    | unsigned h =>
      rw [value_of_isDigits h, natValue_eq_placeValue]
      exact .unsigned h
    | signed h =>
      rw [value_minus, natValue_eq_placeValue]
      exact .signed h

theorem countP_isDigit (h : IsSignedDigits t) :
    t.countP Char.isDigit = (Decimal.splitSign t).2.length := by
  cases h with
  | unsigned h => rw [splitSign_of_isDigits h, List.countP_eq_length.2 h.2]
  | signed h => exact (List.countP_cons_of_neg (by decide)).trans (List.countP_eq_length.2 h.2)

theorem dropWhile_minus (h : IsSignedDigits t) :
    t.dropWhile (· = '-') = (Decimal.splitSign t).2 := by
  have stays {s : Text} (hs : IsDigits s) : s.dropWhile (· = '-') = s := by
    obtain ⟨c, r, rfl⟩ := List.exists_cons_of_ne_nil hs.1
    have hc := ne_of_isDigit (d := '-') (hs.2 c List.mem_cons_self) rfl
    exact List.dropWhile_cons_of_neg (by simpa using hc)
  cases h with
  | unsigned h => rw [splitSign_of_isDigits h, stays h]
  | signed h => exact (List.dropWhile_cons_of_pos (by decide)).trans (stays h)

theorem tooLarge_iff (h : IsSignedDigits t) :
    TooLarge t ↔ 10 < t.countP Char.isDigit ∨ ¬Fits (Decimal.value t) := by
  rw [TooLarge, countP_isDigit h]

/-! ## The form -/

theorem IsSignedDigits.exists_isDigit (h : IsSignedDigits t) : ∃ c ∈ t, c.isDigit = true := by
  cases h with
  | unsigned h =>
    obtain ⟨c, hc⟩ := List.exists_mem_of_ne_nil _ h.1
    exact ⟨c, hc, h.2 c hc⟩
  | signed h =>
    obtain ⟨c, hc⟩ := List.exists_mem_of_ne_nil _ h.1
    exact ⟨c, List.mem_cons_of_mem _ hc, h.2 c hc⟩

theorem IsSignedDigits.minus_not_mem_tail (h : IsSignedDigits t) : '-' ∉ t.tail := by
  cases h with
  | unsigned h => exact fun hm => h.not_mem rfl (List.mem_of_mem_tail hm)
  | signed h => exact h.not_mem rfl

theorem isSignedDigits_of_not_misshapen (h : ¬Misshapen t) : IsSignedDigits t := by
  have hchar : ∀ c ∈ t, c ≠ '-' → c.isDigit = true := by
    intro c hc hm
    by_contra hd
    exact h (.foreign hc (Bool.eq_false_iff.2 hd) hm)
  have htail : ∀ c ∈ t.tail, c.isDigit = true := by
    intro c hc
    refine hchar c (List.mem_of_mem_tail hc) ?_
    rintro rfl
    exact h (.innerMinus hc)
  cases t with
  | nil => exact absurd (.noDigit (by simp)) h
  | cons c t =>
    by_cases hm : c = '-'
    · subst hm
      refine .signed ⟨?_, htail⟩
      rintro rfl
      exact h (.noDigit (by simp))
    · have hc := hchar c List.mem_cons_self hm
      exact .unsigned ⟨by simp, List.forall_mem_cons.2 ⟨hc, htail⟩⟩

theorem misshapen_iff : Misshapen t ↔ ¬IsSignedDigits t := by
  constructor
  · intro h ht
    cases h with
    | noDigit h =>
      obtain ⟨c, hc, hd⟩ := ht.exists_isDigit
      exact ne_of_isDigit hd (h c hc) rfl
    | foreign h hd hm => exact ht.not_mem hd hm h
    | innerMinus h => exact ht.minus_not_mem_tail h
  · intro ht
    by_contra h
    exact ht (isSignedDigits_of_not_misshapen h)

/-! ## The conversion -/

section Conversion

variable (step : Step) {sign : Int}

theorem fits_mul_of_le (hs : sign = 1 ∨ sign = -1) {j k : Nat} (h : j ≤ k)
    (hf : Fits (sign * k)) : Fits (sign * j) := by
  unfold Fits at *
  rcases hs with rfl | rfl
  · omega
  · omega

theorem le_ofDigitChars (t : Text) (k : Nat) : k ≤ Nat.ofDigitChars 10 t k := by
  rw [Nat.ofDigitChars_eq_ofDigitChars_zero]
  have hk : k ≤ 10 ^ t.length * k := Nat.le_mul_of_pos_left k (Nat.pow_pos (by decide))
  omega

theorem extend_eq (hs : sign = 1 ∨ sign = -1) (k : Nat) (c : Char) :
    extend step sign (sign * k) c =
      step.checked (sign * (10 * k + (c.toNat - '0'.toNat) : Nat)) := by
  have hm : sign * k * 10 = sign * (10 * k : Nat) := by
    push_cast
    ring
  have hn : sign * k * 10 + sign * (c.toNat - '0'.toNat : Nat) =
      sign * (10 * k + (c.toNat - '0'.toNat) : Nat) := by
    push_cast
    ring
  rw [extend, Step.checked_bind, hn, hm]
  split_ifs with hf
  · rfl
  · rw [step.checked_of_not_fits fun h => hf (fits_mul_of_le hs (Nat.le_add_right _ _) h)]

/-- From a component on, the conversion of digits is one check of the number that they lead to. -/
theorem foldlM_extend (hs : sign = 1 ∨ sign = -1) (t : Text) {k : Nat} (hk : Fits (sign * k)) :
    t.foldlM (extend step sign) (sign * k) =
      step.checked (sign * (Nat.ofDigitChars 10 t k : Nat)) := by
  induction t generalizing k with
  | nil => exact (step.checked_of_fits hk).symm
  | cons c t ih =>
    rw [List.foldlM_cons, extend_eq step hs, Nat.ofDigitChars_cons]
    by_cases hf : Fits (sign * (10 * k + (c.toNat - '0'.toNat) : Nat))
    · rw [step.checked_of_fits hf, ok_bind, ih hf]
    · -- What is out of range stays so: no further digit leads back.
      have hout : ¬Fits (sign * (Nat.ofDigitChars 10 t (10 * k + (c.toNat - '0'.toNat)) : Nat)) :=
        fun h => hf (fits_mul_of_le hs (le_ofDigitChars t _) h)
      rw [step.checked_of_not_fits hf, step.checked_of_not_fits hout, error_bind]

end Conversion

theorem convert_eq (h : IsSignedDigits t) :
    convert t = (Step.integer t).checked (Decimal.value t) := by
  cases h with
  | unsigned h =>
    have hf := foldlM_extend (Step.integer t) (k := 0) (.inl rfl) t (by decide)
    rw [convert, splitSign_of_isDigits h, value_of_isDigits h]
    simpa [Decimal.natValue] using hf
  | @signed t h =>
    have hf := foldlM_extend (Step.integer ('-' :: t)) (k := 0) (.inr rfl) t (by decide)
    simpa [convert, Decimal.splitSign, Decimal.value, Decimal.natValue] using hf

theorem parseInteger_eq_parseByTests (t : Text) : parseInteger t = parseByTests t := by
  by_cases h : isInteger t = false
  · rw [parseInteger, parseByTests, if_pos h, if_pos h]
  · have hd := isInteger_iff.1 (Bool.not_eq_false _ ▸ h)
    rw [parseInteger, parseByTests, if_neg h, if_neg h, dropWhile_minus hd, convert_eq hd]

/-! ## The three answers -/

theorem numeral_iff_denotes :
    Numeral t n ↔ Denotes t n ∧ t.countP Char.isDigit ≤ 10 ∧ Fits n := by
  constructor
  · intro h
    have hc := countP_isDigit h.isSignedDigits
    cases h with
    | unsigned hd hl hf =>
      rw [splitSign_of_isDigits hd] at hc
      rw [natValue_eq_placeValue] at hf ⊢
      exact ⟨.unsigned hd, hc.trans_le hl, hf⟩
    | signed hd hl hf =>
      rw [natValue_eq_placeValue] at hf ⊢
      exact ⟨.signed hd, hc.trans_le hl, hf⟩
  · rintro ⟨h, hl, hf⟩
    rw [countP_isDigit (denotes_iff.1 h).1] at hl
    cases h with
    | unsigned hd =>
      rw [splitSign_of_isDigits hd] at hl
      rw [← natValue_eq_placeValue] at hf ⊢
      exact .unsigned hd hl hf
    | signed hd =>
      rw [← natValue_eq_placeValue] at hf ⊢
      exact .signed hd hl hf

theorem parseInteger_eq_overflow_iff :
    parseInteger t = .error (Step.integer t).overflow ↔
      ∃ n, Denotes t n ∧ (10 < t.countP Char.isDigit ∨ ¬Fits n) := by
  simp only [denotes_iff]
  by_cases h : IsSignedDigits t
  · have hn : (∃ n, (IsSignedDigits t ∧ n = Decimal.value t) ∧
        (10 < t.countP Char.isDigit ∨ ¬Fits n)) ↔ TooLarge t := by
      rw [tooLarge_iff h]
      simp [h]
    rw [parseInteger_of_signedDigits h, hn]
    split_ifs with hl
    · exact iff_of_true rfl hl
    · exact iff_of_false nofun hl
  · rw [parseInteger_of_not_signedDigits h]
    exact ⟨nofun, fun ⟨_, hd, _⟩ => absurd hd.1 h⟩

theorem parseInteger_eq_malformed_iff :
    parseInteger t = .error (.malformedOperand .whole t) ↔ Misshapen t := by
  rw [misshapen_iff]
  by_cases h : IsSignedDigits t
  · rw [parseInteger_of_signedDigits h]
    refine ⟨fun he => ?_, fun hm => absurd h hm⟩
    split_ifs at he
    cases he
  · exact iff_of_true (parseInteger_of_not_signedDigits h) h

/-- A text is read as a component exactly if it writes one in ten digits at most. It is too large
exactly if it writes an integer in more digits or out of range, and malformed exactly if it writes
no integer, that is, by the faults of its form. The three tests give the same answers. Of all
integers the components, and only they, are read back from their decimal text. -/
theorem parseInteger_classified (t : Text) :
    parseInteger t = parseByTests t ∧
    (∀ n, parseInteger t = .ok n ↔ Denotes t n ∧ t.countP Char.isDigit ≤ 10 ∧ Fits n) ∧
    (parseInteger t = .error (.integerOverflow ("Integer ".toList ++ t)) ↔
      ∃ n, Denotes t n ∧ (10 < t.countP Char.isDigit ∨ ¬Fits n)) ∧
    (parseInteger t = .error (.malformedOperand .whole t) ↔ Misshapen t) ∧
    (Misshapen t ↔ ∀ n, ¬Denotes t n) ∧
    ∀ n, parseInteger (Decimal.ofInt n) = .ok n ↔ Fits n := by
  refine ⟨parseInteger_eq_parseByTests t, fun n => parseInteger_eq_ok_iff.trans numeral_iff_denotes,
    parseInteger_eq_overflow_iff, parseInteger_eq_malformed_iff, ?_, fun n => ?_⟩
  · rw [misshapen_iff]
    simp [denotes_iff]
  · rw [parseInteger_eq_ok_iff]
    exact ⟨Numeral.fits, numeral_ofInt⟩

example : parseInteger "-2147483648".toList = .ok (-2147483648) ∧
    parseInteger "-2147483649".toList = .error (Step.integer "-2147483649".toList).overflow ∧
    parseInteger "-0000000042".toList = .ok (-42) ∧
    parseInteger "00000000042".toList = .error (Step.integer "00000000042".toList).overflow ∧
    ∀ t ∈ ["+4", "--4", "-", "", "٤"].map String.toList,
      parseInteger t = .error (.malformedOperand .whole t) := by
  decide +kernel

end FractionCalculator.Operand
