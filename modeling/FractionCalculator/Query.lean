import FractionCalculator.Text.Blank
import FractionCalculator.Fraction
import FractionCalculator.Operator

/-!
# Queries

A query is one line of three tokens: an operand, an operator, an operand. Blanks
at its two ends do not count; within it only spaces separate tokens, in runs of
any length, and any other blank belongs to the token in which it stands.
-/

namespace FractionCalculator

structure Tokens where
  left : Text
  operator : Text
  right : Text
deriving DecidableEq, Repr

structure Query where
  left : Fraction
  operator : Operator
  right : Fraction
deriving DecidableEq, Repr

namespace Query

def defaultLimit : Nat := 69

def words (t : Text) : List Text :=
  (t.splitOn ' ').filter (· ≠ [])

def tokenize (input : Text) (limit : Nat) : Except Rejection Tokens :=
  let trimmed := input.trim
  if limit < trimmed.length then .error (.inputTooLong trimmed.length limit)
  else
    match words trimmed with
    | [left, operator, right] => .ok ⟨left, operator, right⟩
    | found => .error (.wrongTokenCount found.length)

theorem tokenize_too_long {input : Text} {limit : Nat} (h : limit < input.trim.length) :
    tokenize input limit = .error (.inputTooLong input.trim.length limit) :=
  if_pos h

end Query
end FractionCalculator
