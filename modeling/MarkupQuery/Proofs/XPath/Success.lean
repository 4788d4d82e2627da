import MarkupQuery.XPath.Fault

/-!
# What computations come to when they succeed

Reading and evaluating expressions may end in a fault at any step. `Ensures x P` says that `P` holds
of what `x` comes to, if it comes to anything; the rules here follow the steps of a computation, so
that a statement on successful runs is proved along the definition.
-/

namespace MarkupQuery.XPath

variable {α β : Type}

/-- If a computation succeeds, its result has a property. -/
def Ensures (x : Except Fault α) (P : α → Prop) : Prop :=
  ∀ a, x = .ok a → P a

namespace Ensures

variable {x : Except Fault α} {f : α → Except Fault β} {a : α} {P Q : α → Prop} {R : β → Prop}

theorem ok (h : P a) : Ensures (.ok a) P := by
  rintro _ ⟨⟩
  exact h

theorem pure (h : P a) : Ensures (Pure.pure a) P :=
  ok h

theorem error (f : Fault) : Ensures (.error f) P := by
  rintro _ ⟨⟩

theorem throw (f : Fault) : Ensures (MonadExcept.throw f) P :=
  error f

/-- One step, and what is done with its result. -/
theorem bind (h : ∀ a, x = .ok a → Ensures (f a) R) : Ensures (x >>= f) R := by
  intro b hb
  cases x with
  | error _ => cases hb
  | ok a => exact h a rfl b hb

theorem pureThen (h : Ensures (f a) R) : Ensures (Pure.pure a >>= f) R :=
  h

/-- Behind a fault nothing is done. -/
theorem throwThen (e : Fault) : Ensures (MonadExcept.throw e >>= f) R :=
  bind fun _ h => by cases h

/-- A step of which something is known, and what is done with its result. -/
theorem andThen (hx : Ensures x P) (h : ∀ a, P a → Ensures (f a) R) : Ensures (x >>= f) R :=
  bind fun a ha => h a (hx a ha)

theorem map {g : α → β} (hx : Ensures x fun a => R (g a)) : Ensures (x.map g) R := by
  intro b hb
  cases x with
  | error _ => cases hb
  | ok a =>
    cases hb
    exact hx a rfl

theorem mono (hx : Ensures x P) (h : ∀ a, P a → Q a) : Ensures x Q :=
  fun a ha => h a (hx a ha)

end Ensures

end MarkupQuery.XPath
