import ClientGen.Trail

/-! Failures for ordinary reasons: any but the refusal of a definition. -/
namespace ClientGen

variable {ω α β ε : Type}

def Ordinary (r : Except Fault α) : Prop := ∀ name, r ≠ .error (.typeCollision name)

namespace Ordinary

@[simp] theorem ok (a : α) : Ordinary (.ok a) := by simp [Ordinary]

@[simp] theorem pure (a : α) : Ordinary (Pure.pure a) := ok a

@[simp] theorem error (f : Fault) :
    Ordinary (.error f : Except Fault α) ↔ ∀ name, f ≠ .typeCollision name := by
  simp [Ordinary]

@[simp] theorem throw (f : Fault) :
    Ordinary (MonadExcept.throw f : Except Fault α) ↔ ∀ name, f ≠ .typeCollision name :=
  error f

@[simp] theorem bind (r : Except Fault α) (f : α → Except Fault β) :
    Ordinary (r >>= f) ↔ Ordinary r ∧ ∀ a, r = .ok a → Ordinary (f a) := by
  cases r with
  | error fault => simp [Ordinary, Bind.bind, Except.bind]
  | ok a => simp [Bind.bind, Except.bind]

@[simp] theorem map (f : α → β) (r : Except Fault α) : Ordinary (f <$> r) ↔ Ordinary r := by
  cases r <;> simp [Ordinary, Functor.map, Except.map]

@[simp] theorem mapError (r : Except ε α) (f : ε → Fault) :
    Ordinary (r.mapError f) ↔ ∀ e, r = .error e → ∀ name, f e ≠ .typeCollision name := by
  cases r with
  | error e =>
    change Ordinary (.error (f e) : Except Fault α) ↔ _
    simp
  | ok a =>
    change Ordinary (.ok a) ↔ _
    simp

@[simp] theorem branch (c : Prop) [Decidable c] (r s : Except Fault α) :
    Ordinary (if c then r else s) ↔ (c → Ordinary r) ∧ (¬c → Ordinary s) := by
  by_cases h : c <;> simp [h]

end Ordinary

@[simp] theorem Trail.bindOrdinary (t : Trail ω α) (f : α → Trail ω β) :
    Ordinary (t >>= f).result ↔
      Ordinary t.result ∧ ∀ a, t.result = .ok a → Ordinary (f a).result := by
  cases ended : t.result with
  | error fault => simp [Trail.bindFails f ended]
  | ok a => simp [Trail.bindResult f ended]

@[simp] theorem Trail.mapOrdinary (f : α → β) (t : Trail ω α) :
    Ordinary (f <$> t).result ↔ Ordinary t.result := by
  simp only [← bind_pure_comp, bindOrdinary, pureResult, Ordinary.ok, implies_true, and_true]

end ClientGen
