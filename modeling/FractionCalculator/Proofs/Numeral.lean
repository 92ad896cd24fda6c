import FractionCalculator.Operand
import Mathlib.Tactic.SplitIfs

/-!
# Components written in digits

A component is written as one to ten digits, after a minus or not. The scanners
stop where the digits end, so each part of an operand is cut off before the mark
that follows it; reading a component gives a value for exactly the texts of this
form that denote a component, and every component is read back from its decimal
text.
-/

namespace FractionCalculator.Operand

def IsDigits (t : Text) : Prop :=
  t ≠ [] ∧ ∀ c ∈ t, c.isDigit = true

inductive IsSignedDigits : Text → Prop where
  | unsigned {t : Text} (h : IsDigits t) : IsSignedDigits t
  | signed {t : Text} (h : IsDigits t) : IsSignedDigits ('-' :: t)

/-- A text of one to ten digits, after a minus or not, and the component that it denotes. -/
inductive Numeral : Text → Int → Prop where
  | unsigned {t : Text} (h : IsDigits t) (hl : t.length ≤ 10) (hf : Fits (Decimal.natValue t)) :
    Numeral t (Decimal.natValue t)
  | signed {t : Text} (h : IsDigits t) (hl : t.length ≤ 10) (hf : Fits (-Decimal.natValue t)) :
    Numeral ('-' :: t) (-Decimal.natValue t)

theorem ne_of_isDigit {c d : Char} (hc : c.isDigit = true) (hd : d.isDigit = false) : c ≠ d := by
  rintro rfl
  rw [hc] at hd
  cases hd

theorem IsDigits.not_mem {t : Text} (h : IsDigits t) {c : Char} (hd : c.isDigit = false) : c ∉ t :=
  fun hc => ne_of_isDigit (h.2 c hc) hd rfl

theorem isDigits_ofNat (n : Nat) : IsDigits (Decimal.ofNat n) :=
  ⟨Nat.toDigits_ne_nil, fun _ hc => Decimal.isDigit_of_mem_ofNat hc⟩

theorem length_ofNat_le {n : Nat} (h : n < 10000000000) : (Decimal.ofNat n).length ≤ 10 :=
  (Nat.length_toDigits_le_iff (by decide) (by decide)).2 h

theorem splitSign_append {t : Text} (h : IsDigits t) (r : Text) :
    Decimal.splitSign (t ++ r) = ([], t ++ r) := by
  obtain ⟨hne, hd⟩ := h
  cases t with
  | nil => exact absurd rfl hne
  | cons c t =>
    have hc : c ≠ '-' := ne_of_isDigit (hd c List.mem_cons_self) rfl
    rw [Decimal.splitSign]
    intro r' he
    exact hc (List.cons.inj he).1

theorem splitSign_of_isDigits {t : Text} (h : IsDigits t) : Decimal.splitSign t = ([], t) := by
  simpa using splitSign_append h []

theorem takeWhile_isDigit_append {t r : Text} (h : IsDigits t)
    (hr : ∀ c ∈ r.head?, c.isDigit = false) : (t ++ r).takeWhile Char.isDigit = t := by
  rw [List.takeWhile_append_of_pos h.2]
  cases r with
  | nil => simp
  | cons c r => simp [hr c rfl]

theorem dropWhile_isDigit_append {t r : Text} (h : IsDigits t)
    (hr : ∀ c ∈ r.head?, c.isDigit = false) : (t ++ r).dropWhile Char.isDigit = r := by
  rw [List.dropWhile_append_of_pos h.2]
  cases r with
  | nil => rfl
  | cons c r => simp [hr c rfl]

theorem scanInteger_append {t r : Text} (h : IsSignedDigits t)
    (hr : ∀ c ∈ r.head?, c.isDigit = false) : scanInteger (t ++ r) = some (t, r) := by
  cases h with
  | unsigned h =>
    simp [scanInteger, splitSign_append h, takeWhile_isDigit_append h hr,
      dropWhile_isDigit_append h hr, h.1]
  | @signed t h =>
    simp [scanInteger, Decimal.splitSign, takeWhile_isDigit_append h hr,
      dropWhile_isDigit_append h hr, h.1]

theorem splitSign_fst (t : Text) :
    (Decimal.splitSign t).1 = [] ∨ (Decimal.splitSign t).1 = ['-'] := by
  unfold Decimal.splitSign
  split
  · exact Or.inr rfl
  · exact Or.inl rfl

theorem isSignedDigits_of_scanInteger {t number r : Text}
    (h : scanInteger t = some (number, r)) : IsSignedDigits number := by
  have hs := splitSign_fst t
  unfold scanInteger at h
  generalize Decimal.splitSign t = p at h hs
  obtain ⟨sign, s⟩ := p
  have hd : ∀ c ∈ s.takeWhile Char.isDigit, c.isDigit = true :=
    List.all_eq_true.1 List.all_takeWhile
  dsimp only at h hs
  split_ifs at h with hne
  obtain ⟨rfl, -⟩ := by simpa using h
  rcases hs with rfl | rfl
  · exact .unsigned ⟨hne, hd⟩
  · exact .signed ⟨hne, hd⟩

theorem isInteger_iff {t : Text} : isInteger t = true ↔ IsSignedDigits t := by
  rw [isInteger, decide_eq_true_iff]
  constructor
  · exact isSignedDigits_of_scanInteger
  · intro h
    simpa using scanInteger_append h (r := []) (by simp)

theorem value_of_isDigits {t : Text} (h : IsDigits t) :
    Decimal.value t = Decimal.natValue t := by
  rw [Decimal.value, splitSign_of_isDigits h]

theorem parseInteger_eq_checked {t : Text} (h : IsSignedDigits t) :
    parseInteger t =
      if maxDigits < (Decimal.splitSign t).2.length then .error (Step.integer t).overflow
      else (Step.integer t).checked (Decimal.value t) := by
  rw [parseInteger, if_neg (by simp [isInteger_iff.2 h])]

theorem parseInteger_of_not_signedDigits {t : Text} (h : ¬IsSignedDigits t) :
    parseInteger t = .error (.malformedOperand .whole t) := by
  rw [← isInteger_iff, Bool.not_eq_true] at h
  rw [parseInteger, if_pos h]

theorem Numeral.fits {t : Text} {n : Int} (h : Numeral t n) : Fits n := by
  cases h with
  | unsigned _ _ hf => exact hf
  | signed _ _ hf => exact hf

theorem Numeral.isSignedDigits {t : Text} {n : Int} (h : Numeral t n) : IsSignedDigits t := by
  cases h with
  | unsigned hd => exact .unsigned hd
  | signed hd => exact .signed hd

theorem parseInteger_eq_ok_iff {t : Text} {n : Int} :
    parseInteger t = .ok n ↔ Numeral t n := by
  constructor
  · intro h
    by_cases hs : IsSignedDigits t
    · rw [parseInteger_eq_checked hs] at h
      split_ifs at h with hl
      obtain ⟨hf, rfl⟩ := Step.checked_eq_ok_iff.1 h
      rw [Nat.not_lt] at hl
      cases hs with
      | unsigned hd =>
        rw [splitSign_of_isDigits hd] at hl
        rw [value_of_isDigits hd] at hf ⊢
        exact .unsigned hd hl hf
      | signed hd => exact .signed hd hl hf
    · rw [parseInteger_of_not_signedDigits hs] at h
      cases h
  · intro h
    rw [parseInteger_eq_checked h.isSignedDigits]
    cases h with
    | unsigned hd hl hf =>
      rw [splitSign_of_isDigits hd, value_of_isDigits hd]
      exact (if_neg (Nat.not_lt.2 hl)).trans (Step.checked_of_fits _ hf)
    | signed hd hl hf => exact (if_neg (Nat.not_lt.2 hl)).trans (Step.checked_of_fits _ hf)

theorem Numeral.unique {t : Text} {m n : Int} (hm : Numeral t m) (hn : Numeral t n) : m = n :=
  Except.ok.inj ((parseInteger_eq_ok_iff.2 hm).symm.trans (parseInteger_eq_ok_iff.2 hn))

theorem numeral_ofNat {n : Nat} (h : Fits n) : Numeral (Decimal.ofNat n) n := by
  have hl := length_ofNat_le (n := n) (by obtain ⟨-, hu⟩ := h; omega)
  have hs := Numeral.unsigned (isDigits_ofNat n) hl
  rw [Decimal.natValue_ofNat] at hs
  exact hs h

theorem numeral_neg_ofNat {n : Nat} (h : Fits (-n)) : Numeral ('-' :: Decimal.ofNat n) (-n) := by
  have hl := length_ofNat_le (n := n) (by obtain ⟨hm, -⟩ := h; omega)
  have hs := Numeral.signed (isDigits_ofNat n) hl
  rw [Decimal.natValue_ofNat] at hs
  exact hs h

theorem numeral_ofInt {n : Int} (h : Fits n) : Numeral (Decimal.ofInt n) n := by
  rw [Decimal.ofInt]
  split_ifs with hn
  · have hv : -(n.natAbs : Int) = n := by omega
    have hs := numeral_neg_ofNat (n := n.natAbs) (hv.symm ▸ h)
    rwa [hv] at hs
  · have hv : (n.natAbs : Int) = n := by omega
    have hs := numeral_ofNat (n := n.natAbs) (hv.symm ▸ h)
    rwa [hv] at hs

end FractionCalculator.Operand
