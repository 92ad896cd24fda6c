import FractionCalculator.Calculator
import FractionCalculator.Proofs.Arithmetic
import FractionCalculator.Proofs.Canonical
import FractionCalculator.Proofs.Tokens

/-!
# Exact answers

A calculator that answers has split the trimmed query into three tokens, read the
two operands as the numbers that they mean, and written the canonical text of the
exact value of the operation on these numbers. Nothing on the way rounds, wraps
or loses a sign: what cannot be kept exactly is rejected.
-/

namespace FractionCalculator.Calculator

open Log.Traced in
theorem answer_eq (c : Calculator) (input : Text) : c.answer input = (do
    let tokens ← Query.tokenize input c.maxInputLength
    let left ← Operand.parse tokens.left
    let right ← Operand.parse tokens.right
    let op ← Operator.parse tokens.operator
    (← left.evaluate op right).text) := by
  simp only [answer, execute, parse, evaluate, note, bind_note, outcome_bind, outcome_lift,
    outcome_pure, bind_assoc, pure_bind, bind_pure]

/-- An answer is the canonical text of the exact value of the two numbers that were typed. -/
theorem answer_exact {c : Calculator} {input t : Text} (h : c.answer input = .ok t) :
    input.trim.length ≤ c.maxInputLength ∧
    ∃ (tokens : Tokens) (op : Operator) (x y p : ℚ), Query.Spaced input.trim tokens ∧
      tokens.operator = [op.symbol] ∧ (Operand.typed tokens.left).Means x ∧
      (Operand.typed tokens.right).Means y ∧ op.value? x y = some p ∧ t = canonicalText p := by
  simp only [answer_eq, bind_eq_ok_iff] at h
  obtain ⟨tokens, ht, left, hl, right, hr, op, ho, value, hv, htext⟩ := h
  obtain ⟨hlen, hs⟩ := Query.tokenize_eq_ok_iff.1 ht
  obtain ⟨hpl, hml⟩ := Operand.spec_of_value (o := .typed tokens.left) trivial hl
  obtain ⟨hpr, hmr⟩ := Operand.spec_of_value (o := .typed tokens.right) trivial hr
  refine ⟨hlen, tokens, op, left.toRat, right.toRat, value.toRat, hs,
    Operator.symbol_of_parse ho, hml, hmr, Fraction.value?_of_evaluate hpl hpr hv, ?_⟩
  rw [Fraction.text_eq (Fraction.proper_of_evaluate hpl hpr hv)] at htext
  split_ifs at htext with hm
  exact (Except.ok.inj htext).symm

theorem answer_exact_difference :
    let c : Calculator := {}
    let input : Text := "\t-1_1/4  - 2/8 ".toList
    c.answer input = .ok "-1_1/2".toList ∧ input.trim.length ≤ c.maxInputLength ∧
    ∃ (tokens : Tokens) (op : Operator) (x y p : ℚ), Query.Spaced input.trim tokens ∧
      tokens.operator = [op.symbol] ∧ (Operand.typed tokens.left).Means x ∧
      (Operand.typed tokens.right).Means y ∧ op.value? x y = some p ∧
      "-1_1/2".toList = canonicalText p := by
  intro c input
  have h : c.answer input = .ok "-1_1/2".toList := by decide +kernel
  exact ⟨h, answer_exact h⟩

end FractionCalculator.Calculator
