import FractionCalculator.Fraction

/-!
# Operands

An operand is written as a whole number `A`, a fraction `A/B` or a mixed number
`A_B/C`. Its marks decide which form it has to have: a dot is refused, an
underscore with a slash asks for a mixed number, a slash alone for a fraction.
Each component has at most ten digits, and inside a mixed number only the whole
part may carry a sign.
-/

namespace FractionCalculator

inductive Operand where
  | whole (n : Int)
  | fraction (n d : Int)
  | mixed (w n d : Int)
  | typed (text : Text)
deriving DecidableEq, Repr

namespace Operand

def maxDigits : Nat := 10

def scanInteger (t : Text) : Option (Text × Text) :=
  let (sign, r) := Decimal.splitSign t
  let digits := r.takeWhile Char.isDigit
  if digits = [] then none else some (sign ++ digits, r.dropWhile Char.isDigit)

def isInteger (t : Text) : Bool :=
  scanInteger t = some (t, [])

def fractionParts? (t : Text) : Option (Text × Text) := do
  let (numerator, r) ← scanInteger t
  match r with
  | '/' :: r =>
    let (denominator, r) ← scanInteger r
    if r = [] then some (numerator, denominator) else none
  | _ => none

def mixedParts? (t : Text) : Option (Text × Text × Text) := do
  let (integral, r) ← scanInteger t
  match r with
  | '_' :: r =>
    let (numerator, denominator) ← fractionParts? r
    return (integral, numerator, denominator)
  | _ => none

/-- Reads one component. A text of the form of an integer that has too many digits or is out of
range is an overflow; any other text that is no component is malformed. -/
def parseInteger (t : Text) : Except Rejection Int :=
  if isInteger t = false then .error (.malformedOperand .whole t)
  else if maxDigits < (Decimal.splitSign t).2.length then .error (Step.integer t).overflow
  else (Step.integer t).checked (Decimal.value t)

def asTyped (t : Text) : Rejection → Rejection
  | .undefinedFraction _ => .undefinedFraction t
  | r => r

def parseWhole (t : Text) : Except Rejection Fraction := do
  return .whole (← parseInteger t)

def parseFraction (t : Text) : Except Rejection Fraction :=
  match fractionParts? t with
  | none => .error (.malformedOperand .fraction t)
  | some (numerator, denominator) => do
    let n ← parseInteger numerator
    let d ← parseInteger denominator
    (Fraction.ofPair n d).mapError (asTyped t)

def parseMixed (t : Text) : Except Rejection Fraction :=
  match mixedParts? t with
  | none => .error (.malformedOperand .mixed t)
  | some (integral, numerator, denominator) =>
    if numerator.head? = some '-' ∨ denominator.head? = some '-' then
      .error (.illegalMixedNumberSign t)
    else do
      let w ← parseInteger integral
      let n ← parseInteger numerator
      let d ← parseInteger denominator
      (Fraction.mixed w n d).mapError (asTyped t)

def parse (t : Text) : Except Rejection Fraction :=
  if '.' ∈ t then .error (.decimalNotSupported t)
  else if '/' ∈ t then
    if '_' ∈ t then parseMixed t else parseFraction t
  else parseWhole t

def value : Operand → Except Rejection Fraction
  | .whole n => .ok (.whole n)
  | .fraction n d => Fraction.ofPair n d
  | .mixed w n d => Fraction.mixed w n d
  | .typed t => parse t

theorem append_of_scanInteger {t number r : Text} (h : scanInteger t = some (number, r)) :
    number ++ r = t := by
  have sign : (Decimal.splitSign t).1 ++ (Decimal.splitSign t).2 = t := by
    unfold Decimal.splitSign; split <;> rfl
  unfold scanInteger at h
  dsimp only at h
  split at h
  · simp at h
  · simp only [Option.some.injEq, Prod.mk.injEq] at h
    rw [← h.1, ← h.2, List.append_assoc, List.takeWhile_append_dropWhile, sign]

end Operand
end FractionCalculator
