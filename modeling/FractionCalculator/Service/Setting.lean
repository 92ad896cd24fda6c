import FractionCalculator.Query
import FractionCalculator.Text.Blank

/-!
# Settings

The longest query of the service is a setting: a given value wins over the text
of the environment, which wins over the default. It has to be a natural number
of 64 bits; a text may pad it with blanks and lead it with a plus. These are the
rules that the library which collects the settings, figment, is assumed to follow.
-/

namespace FractionCalculator.Service.Setting

inductive Value where
  | natural (n : Nat)
  | other
deriving DecidableEq, Repr

def inRange? (n : Nat) : Option Nat :=
  if n < 0x10000000000000000 then some n else none

def dropPlus : Text → Text
  | '+' :: r => r
  | t => t

def ofText? (t : Text) : Option Nat :=
  let digits := dropPlus t.trim
  if digits ≠ [] ∧ digits.all Char.isDigit then inRange? (Decimal.natValue digits) else none

def ofValue? : Value → Option Nat
  | .natural n => inRange? n
  | .other => none

def maxInputLength? (environment : Option Text) (value : Option Value) : Option Nat :=
  match value, environment with
  | some v, _ => ofValue? v
  | none, some t => ofText? t
  | none, none => some Query.defaultLimit

end FractionCalculator.Service.Setting
