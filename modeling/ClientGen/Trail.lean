import ClientGen.Event

/-! A computation that hands out values on its way and ends with a result or a fault. What it has
handed out before a fault remains. -/
namespace ClientGen

structure Trail (ω α : Type) where
  given : List ω
  result : Except Fault α

namespace Trail

variable {ω α β : Type}

def done (a : α) : Trail ω α := ⟨[], .ok a⟩

def fail (f : Fault) : Trail ω α := ⟨[], .error f⟩

def give (w : ω) : Trail ω Unit := ⟨[w], .ok ()⟩

def ofExcept (r : Except Fault α) : Trail ω α := ⟨[], r⟩

def andThen (t : Trail ω α) (f : α → Trail ω β) : Trail ω β :=
  match t.result with
  | .ok a => ⟨t.given ++ (f a).given, (f a).result⟩
  | .error fault => ⟨t.given, .error fault⟩

instance : Monad (Trail ω) where
  pure := done
  bind := andThen

instance : LawfulMonad (Trail ω) := LawfulMonad.mk' _
  (fun t => by
    rcases t with ⟨given, result⟩
    cases result <;> simp [Functor.map, andThen, done])
  (fun a f => by simp [pure, bind, andThen, done])
  (fun t f g => by
    rcases t with ⟨given, result⟩
    cases result with
    | error fault => rfl
    | ok a =>
      simp only [bind, andThen]
      cases (f a).result <;> simp)

instance : MonadExcept Fault (Trail ω) where
  throw := fail
  tryCatch t handle :=
    match t.result with
    | .ok _ => t
    | .error fault => ⟨t.given ++ (handle fault).given, (handle fault).result⟩

instance : MonadLift (Except Fault) (Trail ω) where
  monadLift := ofExcept

@[simp] theorem pureResult (a : α) : (pure a : Trail ω α).result = .ok a := rfl

@[simp] theorem pureGiven (a : α) : (pure a : Trail ω α).given = [] := rfl

@[simp] theorem failResult (f : Fault) : (fail f : Trail ω α).result = .error f := rfl

@[simp] theorem failGiven (f : Fault) : (fail f : Trail ω α).given = [] := rfl

@[simp] theorem giveResult (w : ω) : (give w).result = .ok () := rfl

@[simp] theorem giveGiven (w : ω) : (give w).given = [w] := rfl

@[simp] theorem liftResult (r : Except Fault α) : (liftM r : Trail ω α).result = r := rfl

@[simp] theorem liftGiven (r : Except Fault α) : (liftM r : Trail ω α).given = [] := rfl

@[simp] theorem liftOkBind (a : α) (f : α → Trail ω β) :
    ((liftM (.ok a : Except Fault α) : Trail ω α) >>= f) = f a := rfl

@[simp] theorem liftErrorBind (fault : Fault) (f : α → Trail ω β) :
    ((liftM (.error fault : Except Fault α) : Trail ω α) >>= f) = fail fault := rfl

theorem bindGiven {t : Trail ω α} {a : α} (f : α → Trail ω β) (ok : t.result = .ok a) :
    (t >>= f).given = t.given ++ (f a).given := by
  simp only [bind, andThen, ok]

theorem bindResult {t : Trail ω α} {a : α} (f : α → Trail ω β) (ok : t.result = .ok a) :
    (t >>= f).result = (f a).result := by
  simp only [bind, andThen, ok]

theorem bindFails {t : Trail ω α} {fault : Fault} (f : α → Trail ω β)
    (failed : t.result = .error fault) : t >>= f = ⟨t.given, .error fault⟩ := by
  simp only [bind, andThen, failed]

theorem bindEnds {t : Trail ω α} {f : α → Trail ω β} {b : β} (ok : (t >>= f).result = .ok b) :
    ∃ a, t.result = .ok a ∧ (f a).result = .ok b ∧ (t >>= f).given = t.given ++ (f a).given := by
  cases ended : t.result with
  | error fault => simp [bindFails f ended] at ok
  | ok a => exact ⟨a, rfl, by rw [← bindResult f ended, ok], bindGiven f ended⟩

theorem givenMember {t : Trail ω α} {f : α → Trail ω β} {w : ω} :
    w ∈ (t >>= f).given ↔ w ∈ t.given ∨ ∃ a, t.result = .ok a ∧ w ∈ (f a).given := by
  cases ended : t.result with
  | error fault => simp [bindFails f ended]
  | ok a => simp [bindGiven f ended]

theorem liftMember {r : Except Fault α} {f : α → Trail ω β} {w : ω} :
    w ∈ ((liftM r : Trail ω α) >>= f).given ↔ ∃ a, r = .ok a ∧ w ∈ (f a).given := by
  simp [givenMember]

theorem pureMember {t : Trail ω α} {f : α → β} {w : ω} :
    w ∈ (t >>= fun a => pure (f a)).given ↔ w ∈ t.given := by
  rw [givenMember]
  simp

def mapGiven {υ : Type} (f : ω → υ) (t : Trail ω α) : Trail υ α := ⟨t.given.map f, t.result⟩

end Trail

abbrev Report (α : Type) := Trail Event α

end ClientGen
