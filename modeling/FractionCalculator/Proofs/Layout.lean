import FractionCalculator.Calculator
import FractionCalculator.Proofs.Notation
import FractionCalculator.Proofs.Tokens

/-!
# Queries of two operand texts

An operand is written with digits, minus, slash and underscore alone, in at most
33 characters. Two operand texts and an operator with one space on either side of
it are therefore a trimmed line of three tokens, which is split where it was put
together, and no such line is longer than the limit that is set by default.
-/

namespace FractionCalculator

namespace Operand

def IsMark (c : Char) : Prop :=
  c.isDigit = true ∨ c = '-' ∨ c = '/' ∨ c = '_'

theorem IsMark.not_isBlank {c : Char} (h : IsMark c) : Text.isBlank c = false := by
  rcases h with hd | rfl | rfl | rfl
  · have hn : 48 ≤ c.toNat ∧ c.toNat ≤ 57 := Char.isDigit_iff_toNat.1 hd
    simp only [Text.isBlank, CodePoints.contains, Text.whiteSpace, List.any_cons, List.any_nil,
      Bool.or_false, Bool.or_eq_false_iff, Bool.and_eq_false_iff, decide_eq_false_iff_not]
    omega
  · decide
  · decide
  · decide

theorem IsDigits.isMark {t : Text} (h : IsDigits t) : ∀ c ∈ t, IsMark c :=
  fun c hc => Or.inl (h.2 c hc)

theorem IsSignedDigits.isMark {t : Text} (h : IsSignedDigits t) : ∀ c ∈ t, IsMark c := by
  cases h with
  | unsigned h => exact h.isMark
  | signed h => exact List.forall_mem_cons.2 ⟨Or.inr (Or.inl rfl), h.isMark⟩

theorem Written.isMark {t : Text} {o : Operand} (h : Written t o) : ∀ c ∈ t, IsMark c := by
  have slash : IsMark '/' := Or.inr (Or.inr (Or.inl rfl))
  have underscore : IsMark '_' := Or.inr (Or.inr (Or.inr rfl))
  cases h with
  | whole hn => exact hn.isSignedDigits.isMark
  | fraction hn hd =>
    rw [List.forall_mem_append, List.forall_mem_cons]
    exact ⟨hn.isSignedDigits.isMark, slash, hd.isSignedDigits.isMark⟩
  | mixed hw _ _ hn hd =>
    rw [List.forall_mem_append, List.forall_mem_cons, List.forall_mem_append, List.forall_mem_cons]
    exact ⟨hw.isSignedDigits.isMark, underscore, hn.isMark, slash, hd.isMark⟩

theorem IsSignedDigits.ne_nil {t : Text} (h : IsSignedDigits t) : t ≠ [] := by
  cases h with
  | unsigned h => exact h.1
  | signed h => exact List.cons_ne_nil _ _

theorem Written.ne_nil {t : Text} {o : Operand} (h : Written t o) : t ≠ [] := by
  cases h with
  | whole hn => exact hn.isSignedDigits.ne_nil
  | fraction => simp
  | mixed => simp

theorem Numeral.length_le {t : Text} {n : Int} (h : Numeral t n) : t.length ≤ 11 := by
  cases h with
  | unsigned _ hl => exact hl.trans (by decide)
  | signed _ hl => exact Nat.succ_le_succ hl

theorem Numeral.length_le_of_isDigits {t : Text} {n : Int} (h : Numeral t n) (hd : IsDigits t) :
    t.length ≤ 10 := by
  cases h with
  | unsigned _ hl => exact hl
  | signed => exact absurd rfl hd.head?_ne_minus

theorem Written.length_le {t : Text} {o : Operand} (h : Written t o) : t.length ≤ 33 := by
  cases h with
  | whole hn =>
    have := hn.length_le
    omega
  | fraction hn hd =>
    have := hn.length_le
    have := hd.length_le
    rw [List.length_append, List.length_cons]
    omega
  | mixed hw hn hd hn' hd' =>
    have := hw.length_le
    have := hn.length_le_of_isDigits hn'
    have := hd.length_le_of_isDigits hd'
    rw [List.length_append, List.length_cons, List.length_append, List.length_cons]
    omega

variable {t : Text} {f : Fraction}

theorem isMark_of_parse (h : parse t = .ok f) : ∀ c ∈ t, IsMark c := by
  obtain ⟨o, ho, -⟩ := parse_eq_ok_iff.1 h
  exact ho.isMark

theorem length_of_parse (h : parse t = .ok f) : t.length ≤ 33 := by
  obtain ⟨o, ho, -⟩ := parse_eq_ok_iff.1 h
  exact ho.length_le

theorem isToken_of_parse (h : parse t = .ok f) : Query.IsToken t := by
  obtain ⟨o, ho, -⟩ := parse_eq_ok_iff.1 h
  refine ⟨ho.ne_nil, ?_⟩
  intro hs
  exact absurd (ho.isMark ' ' hs).not_isBlank (by decide)

end Operand

theorem Text.trim_eq_self {t : Text} (hh : ∀ c, t.head? = some c → isBlank c = false)
    (hl : ∀ c, t.getLast? = some c → isBlank c = false) : t.trim = t := by
  have hstart : t.trimStart = t := by
    cases t with
    | nil => rfl
    | cons c t => exact trimStart_eq_self (hh c rfl)
  rw [trim, hstart]
  rcases List.eq_nil_or_concat t with rfl | ⟨s, c, rfl⟩
  · rfl
  · rw [List.concat_eq_append]
    exact trimEnd_append_singleton s (hl c (by simp))

namespace Query

def line (a : Text) (op : Operator) (b : Text) : Text :=
  a ++ ' ' :: op.symbol :: ' ' :: b

theorem length_line (a : Text) (op : Operator) (b : Text) :
    (line a op b).length = a.length + b.length + 3 := by
  simp only [line, List.length_append, List.length_cons]
  omega

variable {a b : Text} {l r : Fraction}

theorem trim_line (ha : Operand.parse a = .ok l) (hb : Operand.parse b = .ok r) (op : Operator) :
    (line a op b).trim = line a op b := by
  apply Text.trim_eq_self
  · intro c hc
    rw [line, List.head?_append_of_ne_nil _ (Operand.isToken_of_parse ha).1] at hc
    exact (Operand.isMark_of_parse ha c (List.mem_of_mem_head? hc)).not_isBlank
  · intro c hc
    have hs : line a op b = (a ++ [' ', op.symbol, ' ']) ++ b := by simp [line]
    rw [hs, List.getLast?_append_of_ne_nil _ (Operand.isToken_of_parse hb).1] at hc
    exact (Operand.isMark_of_parse hb c (List.mem_of_mem_getLast? hc)).not_isBlank

theorem isToken_symbol (op : Operator) : IsToken [op.symbol] := by
  refine ⟨List.cons_ne_nil _ _, ?_⟩
  cases op <;> decide

theorem tokenize_line (ha : Operand.parse a = .ok l) (hb : Operand.parse b = .ok r)
    (op : Operator) {limit : Nat} (h : (line a op b).length ≤ limit) :
    tokenize (line a op b) limit = .ok ⟨a, [op.symbol], b⟩ := by
  rw [tokenize_eq_ok_iff, trim_line ha hb]
  refine ⟨h, Operand.isToken_of_parse ha, isToken_symbol op, Operand.isToken_of_parse hb, 0, 0, ?_⟩
  simp [line]

theorem length_line_le (ha : Operand.parse a = .ok l) (hb : Operand.parse b = .ok r)
    (op : Operator) : (line a op b).length ≤ 69 := by
  have hla := Operand.length_of_parse ha
  have hlb := Operand.length_of_parse hb
  rw [length_line]
  omega

end Query

namespace Calculator

open Log.Traced in
theorem outcome_parse (c : Calculator) (input : Text) : (c.parse input).outcome = (do
    let tokens ← Query.tokenize input c.maxInputLength
    let left ← Operand.parse tokens.left
    let right ← Operand.parse tokens.right
    let operator ← Operator.parse tokens.operator
    return ⟨left, operator, right⟩) := by
  simp only [parse, note, bind_note, outcome_bind, outcome_lift, outcome_pure]

theorem parse_line {c : Calculator} {a b : Text} {l r : Fraction} (ha : Operand.parse a = .ok l)
    (hb : Operand.parse b = .ok r) (op : Operator)
    (h : (Query.line a op b).length ≤ c.maxInputLength) :
    (c.parse (Query.line a op b)).outcome = .ok ⟨l, op, r⟩ := by
  rw [outcome_parse, Query.tokenize_line ha hb op h, ok_bind, ha, ok_bind, hb, ok_bind,
    Operator.parse_symbol, ok_bind]
  rfl

/-- The limit that is set by default refuses no query of two operand texts, and no smaller limit
would do. -/
theorem default_limit_sufficient :
    (∀ (a b : Text) (l r : Fraction) (op : Operator), Operand.parse a = .ok l →
      Operand.parse b = .ok r → (Query.line a op b).length ≤ 69 ∧
        (parse {} (Query.line a op b)).outcome = .ok ⟨l, op, r⟩) ∧
    ∃ (a b : Text) (l r : Fraction), Operand.parse a = .ok l ∧ Operand.parse b = .ok r ∧
      ∀ op, (Query.line a op b).length = 69 := by
  constructor
  · intro a b l r op ha hb
    have hlen := Query.length_line_le ha hb op
    exact ⟨hlen, parse_line ha hb op hlen⟩
  · have h : Operand.parse "-0000000001_0000000001/0000000002".toList = .ok ⟨-3, 2⟩ := by
      decide +kernel
    exact ⟨_, _, _, _, h, h, fun op => Query.length_line _ op _⟩

theorem default_limit_sufficient_longest :
    let a := "-2147483646_0000000001/0000000001".toList
    let b := "-0000000001_0000000001/0000000002".toList
    Operand.parse a = .ok ⟨-2147483647, 1⟩ ∧ Operand.parse b = .ok ⟨-3, 2⟩ ∧
      (Query.line a .divide b).length ≤ 69 ∧
      (parse {} (Query.line a .divide b)).outcome = .ok ⟨⟨-2147483647, 1⟩, .divide, ⟨-3, 2⟩⟩ := by
  intro a b
  have ha : Operand.parse a = .ok ⟨-2147483647, 1⟩ := by decide +kernel
  have hb : Operand.parse b = .ok ⟨-3, 2⟩ := by decide +kernel
  exact ⟨ha, hb, default_limit_sufficient.1 a b _ _ .divide ha hb⟩

end Calculator
end FractionCalculator
