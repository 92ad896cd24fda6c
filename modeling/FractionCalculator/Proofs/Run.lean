import FractionCalculator.Accumulator
import FractionCalculator.Proofs.Spelling

/-!
# Runs of an accumulator

Each action keeps the running fraction proper. Only an operation that succeeds
changes the number it stands for, and it makes the exact value of this number and
the number of its operand; a rejected action, and one that normalizes, reduces,
writes or rereads, leaves the number alone. A run thus ends at the number that
its successful operations give when they are computed exactly.
-/

namespace FractionCalculator

namespace Fraction

theorem Proper.defined {f : Fraction} (h : f.Proper) (t : Text) :
    f.normalize ≠ .error (.undefinedFraction t) ∧ f.reduce ≠ .error (.undefinedFraction t) ∧
      f.text ≠ .error (.undefinedFraction t) := by
  refine ⟨?_, ?_, ?_⟩
  · simp [h.normalize]
  · rw [reduce_eq h]
    split_ifs <;> simp [Step.overflow]
  · rw [text_eq h]
    split_ifs <;> simp [Step.overflow]

theorem toRat_of_reduce {f g : Fraction} (hf : f.Proper) (h : f.reduce = .ok g) :
    g.Proper ∧ g.toRat = f.toRat := by
  rw [reduce_eq hf] at h
  split_ifs at h with hm hz
  · obtain rfl := Except.ok.inj h
    exact ⟨hf, rfl⟩
  · obtain rfl := Except.ok.inj h
    exact ⟨proper_lowest hf, toRat_lowest f.toRat⟩

end Fraction

namespace Accumulator

open Fraction

def Action.Bounded : Action → Prop
  | .apply _ operand => operand.Bounded
  | _ => True

/-- The operation that an action does on a value, with the number of its operand. A rejected action
does none. -/
def effect (f : Fraction) : Action → List (Operator × ℚ)
  | .apply op operand =>
    match operand.value with
    | .error _ => []
    | .ok g =>
      match f.evaluate op g with
      | .error _ => []
      | .ok _ => [(op, g.toRat)]
  | _ => []

def effects (f : Fraction) : List Action → List (Operator × ℚ)
  | [] => []
  | action :: rest => effect f action ++ effects (next f action) rest

def exactValue (x : ℚ) (steps : List (Operator × ℚ)) : Option ℚ :=
  steps.foldlM (fun x step => step.1.value? x step.2) x

theorem exactValue_append {x y : ℚ} {steps : List (Operator × ℚ)}
    (h : exactValue x steps = some y) (rest : List (Operator × ℚ)) :
    exactValue x (steps ++ rest) = exactValue y rest := by
  rw [exactValue] at h
  rw [exactValue, List.foldlM_append, h]
  rfl

variable {f g : Fraction} {action : Action}

theorem effect_of_error {cause : Rejection} (h : action.value f = .error cause) :
    effect f action = [] := by
  cases action with
  | apply op operand =>
    cases ho : operand.value with
    | error _ => simp only [effect, ho]
    | ok g =>
      have he : f.evaluate op g = .error cause := by
        simpa only [Action.value, ho, ok_bind] using h
      simp only [effect, ho, he]
  | normalize => rfl
  | reduce => rfl
  | write => rfl
  | reread => rfl

theorem value_spec (hf : f.Proper) (ha : action.Bounded) (h : action.value f = .ok g) :
    g.Proper ∧ exactValue f.toRat (effect f action) = some g.toRat := by
  cases action with
  | normalize =>
    obtain rfl : f = g := Except.ok.inj (hf.normalize.symm.trans h)
    exact ⟨hf, rfl⟩
  | reduce =>
    obtain ⟨hg, hx⟩ := toRat_of_reduce hf h
    exact ⟨hg, congrArg some hx.symm⟩
  | write =>
    obtain rfl := Except.ok.inj h
    exact ⟨hf, rfl⟩
  | reread =>
    -- What can be written has a numerator other than the least, and is read in lowest terms.
    have hm : f.numerator ≠ -2147483648 := by
      intro hm
      simp [Action.value, text_eq hf, hm, error_bind] at h
    obtain rfl := Except.ok.inj ((parse_of_text hf hm).symm.trans h)
    exact ⟨proper_lowest hf, congrArg some (toRat_lowest f.toRat).symm⟩
  | apply op operand =>
    obtain ⟨r, hr, hg⟩ := bind_eq_ok_iff.1 h
    have hp := (Operand.spec_of_value ha hr).1
    refine ⟨proper_of_evaluate hf hp hg, ?_⟩
    have hx := value?_of_evaluate hf hp hg
    simpa [effect, hr, hg, exactValue] using hx

/-- Each step of a run keeps the fraction proper and does its arithmetic exactly. -/
theorem next_spec (hf : f.Proper) (ha : action.Bounded) :
    (next f action).Proper ∧
      exactValue f.toRat (effect f action) = some (next f action).toRat := by
  cases h : action.value f with
  | ok g =>
    rw [next_of_ok h]
    exact value_spec hf ha h
  | error cause =>
    rw [next_of_error h, effect_of_error h]
    exact ⟨hf, rfl⟩

theorem reach_spec {actions : List Action} (hf : f.Proper) (ha : ∀ a ∈ actions, a.Bounded) :
    (reach f actions).Proper ∧
      exactValue f.toRat (effects f actions) = some (reach f actions).toRat := by
  induction actions generalizing f with
  | nil => exact ⟨hf, rfl⟩
  | cons action rest ih =>
    obtain ⟨hn, hx⟩ := next_spec hf (ha action List.mem_cons_self)
    obtain ⟨hr, hy⟩ := ih hn fun a hm => ha a (List.mem_cons_of_mem action hm)
    refine ⟨hr, ?_⟩
    rw [effects, exactValue_append hx, hy]
    rfl

/-- Whatever a run does, its fraction is proper, normal and nowhere undefined, and it stands for the
exact value of the operations that succeeded. -/
theorem reach_invariant {start : Operand} {f : Fraction} {actions : List Action}
    (hs : start.Bounded) (hf : start.value = .ok f) (ha : ∀ a ∈ actions, a.Bounded) :
    let g := reach f actions
    g.Proper ∧ g.normalize = .ok g ∧ exactValue f.toRat (effects f actions) = some g.toRat ∧
      ∀ t, g.normalize ≠ .error (.undefinedFraction t) ∧
        g.reduce ≠ .error (.undefinedFraction t) ∧ g.text ≠ .error (.undefinedFraction t) := by
  obtain ⟨hg, hx⟩ := reach_spec (Operand.spec_of_value hs hf).1 ha
  exact ⟨hg, hg.normalize, hx, hg.defined⟩

theorem reach_invariant_least :
    let actions : List Action := [.apply .divide (.fraction 3 (-6)), .reduce,
      .apply .multiply (.whole (-2147483648)), .apply .subtract (.typed "1_1/2".toList), .reread,
      .apply .divide (.whole 0), .apply .add (.whole (-2147483648)), .reduce]
    let g := reach ⟨-3, 4⟩ actions
    (Operand.mixed (-1) 1 (-4)).value = .ok ⟨-3, 4⟩ ∧ g = ⟨-2147483648, 1⟩ ∧
      g.Proper ∧ g.normalize = .ok g ∧
      exactValue (toRat ⟨-3, 4⟩) (effects ⟨-3, 4⟩ actions) = some g.toRat ∧
      ∀ t, g.normalize ≠ .error (.undefinedFraction t) ∧
        g.reduce ≠ .error (.undefinedFraction t) ∧ g.text ≠ .error (.undefinedFraction t) := by
  intro actions g
  have hs : (Operand.mixed (-1) 1 (-4)).value = .ok ⟨-3, 4⟩ := by decide
  have ha : ∀ a ∈ actions, a.Bounded := by
    simp [actions, Action.Bounded, Operand.Bounded, Fits]
  refine ⟨hs, by decide +kernel, reach_invariant ?_ hs ha⟩
  simp [Operand.Bounded, Fits]

end Accumulator
end FractionCalculator
