import FractionCalculator.Fraction.Arithmetic
import FractionCalculator.Fraction.Canonical
import FractionCalculator.Operand

/-!
# Accumulator

A running fraction and the actions on it. An action gives the next value or is
rejected; a rejected action leaves the value as it was, and the run goes on from
there. Each action is reported as it happens.
-/

namespace FractionCalculator.Accumulator

inductive Action where
  | normalize
  | reduce
  | write
  | reread
  | apply (op : Operator) (operand : Operand)
deriving DecidableEq, Repr

def Action.value (f : Fraction) : Action → Except Rejection Fraction
  | .normalize => f.normalize
  | .reduce => f.reduce
  | .write => .ok f
  | .reread => do Operand.parse (← f.text)
  | .apply op operand => do f.evaluate op (← operand.value)

def next (f : Fraction) (action : Action) : Fraction :=
  match action.value f with
  | .ok g => g
  | .error _ => f

def reach (start : Fraction) (actions : List Action) : Fraction :=
  actions.foldl next start

inductive Report where
  | holds (f : Fraction)
  | text (written : Except Rejection Text)
  | keeps (f : Fraction) (cause : Rejection)

def report (f : Fraction) : Action → Report
  | .write => .text f.text
  | action =>
    match action.value f with
    | .ok g => .holds g
    | .error cause => .keeps f cause

def run (start : Fraction) : List Action → List Report
  | [] => []
  | action :: rest => report start action :: run (next start action) rest

theorem next_of_ok {f g : Fraction} {action : Action} (h : action.value f = .ok g) :
    next f action = g := by
  rw [next, h]

theorem next_of_error {f : Fraction} {action : Action} {cause : Rejection}
    (h : action.value f = .error cause) : next f action = f := by
  rw [next, h]

end FractionCalculator.Accumulator
