import FractionCalculator.Rejection

/-!
# Operators

The four operations, each written with one character.
-/

namespace FractionCalculator

inductive Operator where
  | add
  | subtract
  | multiply
  | divide
deriving DecidableEq, Repr

namespace Operator

def symbol : Operator → Char
  | .add => '+'
  | .subtract => '-'
  | .multiply => '*'
  | .divide => '/'

def name : Operator → Text
  | .add => "Add".toList
  | .subtract => "Subtract".toList
  | .multiply => "Multiply".toList
  | .divide => "Divide".toList

def all : List Operator :=
  [.add, .subtract, .multiply, .divide]

def parse (token : Text) : Except Rejection Operator :=
  match all.find? (token = [·.symbol]) with
  | some op => .ok op
  | none => .error (.unknownOperator token)

/-- The tokens that are operators. -/
theorem parse_eq_ok_iff {token : Text} {op : Operator} :
    parse token = .ok op ↔
      (token, op) ∈ [(['+'], add), (['-'], subtract), (['*'], multiply), (['/'], divide)] := by
  constructor
  · intro h
    unfold parse at h
    split at h
    · next found =>
      cases h
      obtain rfl : token = [op.symbol] := by simpa using List.find?_some found
      cases op <;> decide
    · cases h
  · intro h
    simp only [List.mem_cons, Prod.mk.injEq, List.not_mem_nil, or_false] at h
    rcases h with ⟨rfl, rfl⟩ | ⟨rfl, rfl⟩ | ⟨rfl, rfl⟩ | ⟨rfl, rfl⟩ <;> rfl

@[simp] theorem parse_symbol (op : Operator) : parse [op.symbol] = .ok op := by
  cases op <;> rfl

theorem symbol_of_parse {token : Text} {op : Operator} (h : parse token = .ok op) :
    token = [op.symbol] := by
  have hm := parse_eq_ok_iff.1 h
  cases op <;> simpa [symbol] using hm

end Operator
end FractionCalculator
