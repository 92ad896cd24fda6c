import FractionCalculator.Log
import FractionCalculator.Rejection

/-!
# Traced computations

A traced computation leaves records, in order, and ends with a value or with a
rejection. Composing two keeps the records of both; after a rejection nothing
more is recorded.
-/

namespace FractionCalculator.Log

structure Traced (α : Type) where
  records : List Record
  outcome : Except Rejection α

namespace Traced

def pure {α : Type} (a : α) : Traced α :=
  ⟨[], .ok a⟩

def bind {α β : Type} (x : Traced α) (f : α → Traced β) : Traced β :=
  match x.outcome with
  | .ok a => ⟨x.records ++ (f a).records, (f a).outcome⟩
  | .error cause => ⟨x.records, .error cause⟩

instance : Monad Traced where
  pure := pure
  bind := bind

def note (record : Record) : Traced Unit :=
  ⟨[record], .ok ()⟩

def ofExcept {α : Type} (x : Except Rejection α) : Traced α :=
  ⟨[], x⟩

instance : MonadLift (Except Rejection) Traced where
  monadLift := ofExcept

theorem bind_note {β : Type} (record : Record) (f : Unit → Traced β) :
    (note record >>= f) = ⟨record :: (f ()).records, (f ()).outcome⟩ :=
  rfl

theorem bind_of_ok {α β : Type} {x : Traced α} {a : α} (h : x.outcome = .ok a)
    (f : α → Traced β) : (x >>= f) = ⟨x.records ++ (f a).records, (f a).outcome⟩ := by
  change bind x f = _
  rw [bind, h]

theorem bind_of_error {α β : Type} {x : Traced α} {cause : Rejection}
    (h : x.outcome = .error cause) (f : α → Traced β) :
    (x >>= f) = ⟨x.records, .error cause⟩ := by
  change bind x f = _
  rw [bind, h]

theorem lift_bind_of_ok {α β : Type} {x : Except Rejection α} {a : α} (h : x = .ok a)
    (f : α → Traced β) : ((liftM x : Traced α) >>= f) = f a := by
  rw [h]
  rfl

theorem lift_bind_of_error {α β : Type} {x : Except Rejection α} {cause : Rejection}
    (h : x = .error cause) (f : α → Traced β) :
    ((liftM x : Traced α) >>= f) = ⟨[], .error cause⟩ := by
  rw [h]
  rfl

theorem map_id_eq {α : Type} (x : Traced α) : id <$> x = x := by
  change (x >>= fun a => Pure.pure (id a)) = x
  cases hx : x.outcome with
  | error cause => rw [bind_of_error hx, ← hx]
  | ok a =>
    rw [bind_of_ok hx]
    change (⟨x.records ++ [], .ok a⟩ : Traced α) = x
    rw [List.append_nil, ← hx]

theorem bind_bind {α β γ : Type} (x : Traced α) (f : α → Traced β) (g : β → Traced γ) :
    (x >>= f >>= g) = x >>= fun a => f a >>= g := by
  cases hx : x.outcome with
  | error cause => rw [bind_of_error hx, bind_of_error hx, bind_of_error rfl]
  | ok a =>
    rw [bind_of_ok hx, bind_of_ok hx]
    cases hf : (f a).outcome with
    | error cause => rw [bind_of_error hf, bind_of_error rfl]
    | ok b => rw [bind_of_ok hf, bind_of_ok rfl, List.append_assoc]

instance : LawfulMonad Traced :=
  LawfulMonad.mk' Traced map_id_eq (fun _ _ => rfl) bind_bind

theorem outcome_bind {α β : Type} (x : Traced α) (f : α → Traced β) :
    (x >>= f).outcome = x.outcome >>= fun a => (f a).outcome := by
  change (bind x f).outcome = _
  unfold bind
  cases x.outcome <;> rfl

theorem outcome_lift {α : Type} (x : Except Rejection α) : (liftM x : Traced α).outcome = x :=
  rfl

theorem outcome_pure {α : Type} (a : α) : (Pure.pure a : Traced α).outcome = Pure.pure a :=
  rfl

end Traced
end FractionCalculator.Log
