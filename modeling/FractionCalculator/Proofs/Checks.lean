import FractionCalculator.Component
import Mathlib.Tactic.SplitIfs

/-!
# Sequences of checks

An operation, and the conversion of a mixed number, computes one integer after
another and stops at the first that is no component. Such a computation is the
list of its integers, each with the step that names its overflow: it goes on
exactly if every integer of the list is a component.
-/

namespace FractionCalculator

namespace Step

def checkAll : List (Step × Int) → Except Rejection Unit
  | [] => .ok ()
  | (step, n) :: rest => do
    let _ ← step.checked n
    checkAll rest

theorem checkAll_nil_bind {α : Type} (f : Unit → Except Rejection α) :
    (checkAll [] >>= f) = f () :=
  rfl

theorem checkAll_cons_bind {α : Type} (step : Step) (n : Int) (rest : List (Step × Int))
    (f : Unit → Except Rejection α) : (checkAll ((step, n) :: rest) >>= f) =
      if Fits n then checkAll rest >>= f else .error step.overflow := by
  rw [checkAll, checked_bind]
  split_ifs <;> rfl

theorem checkAll_map_bind {α : Type} (step : Step) (integers : List Int)
    (f : Unit → Except Rejection α) : (checkAll (integers.map (step, ·)) >>= f) =
      if ∀ n ∈ integers, Fits n then f () else .error step.overflow := by
  induction integers with
  | nil => simp [checkAll_nil_bind]
  | cons n rest ih =>
    rw [List.map_cons, checkAll_cons_bind, ih]
    by_cases hn : Fits n
    · simp [hn]
    · simp [hn]

theorem checkAll_eq_ok_iff {checks : List (Step × Int)} :
    checkAll checks = .ok () ↔ ∀ c ∈ checks, Fits c.2 := by
  induction checks with
  | nil => simp [checkAll]
  | cons c rest ih =>
    rw [checkAll, checked_bind, List.forall_mem_cons]
    split_ifs with hc
    · simp [hc, ih]
    · simp [hc]

theorem checkAll_eq (checks : List (Step × Int)) :
    checkAll checks = match checks.find? (¬Fits ·.2) with
      | some c => .error c.1.overflow
      | none => .ok () := by
  induction checks with
  | nil => rfl
  | cons c rest ih =>
    rw [checkAll, checked_bind, List.find?_cons]
    by_cases hc : Fits c.2
    · simp [hc, ih]
    · simp [hc]

theorem checkAll_swap (step : Step) (m n : Int) (rest : List (Step × Int)) :
    checkAll ((step, m) :: (step, n) :: rest) = checkAll ((step, n) :: (step, m) :: rest) := by
  simp only [checkAll, checked_bind]
  by_cases hm : Fits m
  · simp [hm]
  · simp [hm]

end Step
end FractionCalculator
