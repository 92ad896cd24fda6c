import FractionCalculator.Fraction.Arithmetic
import FractionCalculator.Fraction.Canonical
import FractionCalculator.Log.Traced
import FractionCalculator.Operand
import FractionCalculator.Query
import FractionCalculator.Text.Quoted

/-!
# Calculator

A calculator answers one query at a time: it splits the query into tokens, reads
the left operand, the right operand and the operator, computes, and writes the
canonical text. Each stage leaves a record before it starts, and the answer one
at the end, so the records of a rejected query stop at the stage that failed.
-/

namespace FractionCalculator

structure Calculator where
  maxInputLength : Nat := Query.defaultLimit
  logTarget : Text := "calculator".toList
deriving DecidableEq, Repr

namespace Calculator

open Log (Traced Level)

def note (c : Calculator) (level : Level) (message : Text) : Traced Unit :=
  .note ⟨level, c.logTarget, .engine, message⟩

def parse (c : Calculator) (input : Text) : Traced Query := do
  c.note .trace ("Tokenizing query ".toList ++ input.quoted)
  let tokens ← Query.tokenize input c.maxInputLength
  c.note .trace ("Parsing left operand ".toList ++ tokens.left)
  let left ← Operand.parse tokens.left
  c.note .trace ("Parsing right operand ".toList ++ tokens.right)
  let right ← Operand.parse tokens.right
  c.note .trace ("Parsing operator ".toList ++ tokens.operator)
  let operator ← Operator.parse tokens.operator
  return ⟨left, operator, right⟩

def evaluate (c : Calculator) (query : Query) : Traced Fraction := do
  c.note .trace ("Evaluating ".toList ++ query.left.display ++ ' ' :: query.operator.symbol ::
    ' ' :: query.right.display)
  query.left.evaluate query.operator query.right

def execute (c : Calculator) (input : Text) : Traced Text := do
  let query ← c.parse input
  let value ← c.evaluate query
  let answer ← value.text
  c.note .debug (input.trim ++ " = ".toList ++ answer)
  return answer

def answer (c : Calculator) (input : Text) : Except Rejection Text :=
  (c.execute input).outcome

end Calculator
end FractionCalculator
