import FractionCalculator.Fraction

/-!
# Canonical text

A fraction is written in lowest terms: zero as `0`, an integer as itself, a value
below one as numerator and denominator, any other as a mixed number whose sign
stands in front. Equal values have equal texts.
-/

namespace FractionCalculator.Fraction

/-- The text of a fraction in lowest terms. Quotient and remainder go toward zero, so the
remainder carries the sign of the numerator. -/
def reducedText (f : Fraction) : Except Rejection Text :=
  let n := f.numerator
  let d := f.denominator
  if n = 0 then .ok ['0']
  else do
    let remainder ← Step.formatting.checked (n.tmod d)
    let quotient ← Step.formatting.checked (n.tdiv d)
    if remainder = 0 then return Decimal.ofInt quotient
    else
      let magnitude ← Step.formatting.checked n.natAbs
      let limit ← Step.formatting.checked d.natAbs
      if magnitude < limit then return f.display
      else
        let part ← Step.formatting.checked remainder.natAbs
        return Decimal.ofInt quotient ++ '_' :: display ⟨part, d⟩

def text (f : Fraction) : Except Rejection Text := do
  (← f.reduce).reducedText

end FractionCalculator.Fraction
