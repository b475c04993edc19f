import ClientGen.Fault

/-! How a computation that may fail ends: with a value of one kind or for a reason of another. -/
namespace ClientGen

variable {ε α β : Type} {told : ε → Prop} {given : α → Prop}

def Ends (told : ε → Prop) (given : α → Prop) : Except ε α → Prop
  | .ok a => given a
  | .error e => told e

abbrev Tells (told : ε → Prop) (r : Except ε α) : Prop := Ends told (fun _ => True) r

namespace Ends

@[simp] theorem ok {a : α} : Ends told given (.ok a) ↔ given a := Iff.rfl

@[simp] theorem pure {a : α} : Ends told given (Pure.pure a) ↔ given a := Iff.rfl

@[simp] theorem error {e : ε} : Ends told given (.error e) ↔ told e := Iff.rfl

theorem tellsPure (a : α) : Tells told (Pure.pure a : Except ε α) := trivial

theorem bind {after : β → Prop} {r : Except ε α} {f : α → Except ε β} (first : Ends told given r)
    (next : ∀ a, given a → Ends told after (f a)) : Ends told after (r >>= f) := by
  cases r with
  | error e => exact first
  | ok a => exact next a first

theorem imp {other : α → Prop} {known : ε → Prop} {r : Except ε α} (ends : Ends told given r)
    (fault : ∀ e, told e → known e) (value : ∀ a, given a → other a) : Ends known other r := by
  cases r with
  | error e => exact fault e ends
  | ok a => exact value a ends

theorem branch {c : Prop} [Decidable c] {r s : Except ε α} (yes : c → Ends told given r)
    (no : ¬c → Ends told given s) : Ends told given (if c then r else s) := by
  by_cases h : c
  · simpa [h] using yes h
  · simpa [h] using no h

theorem jump {after : β → Prop} {c : Prop} [Decidable c] {r s : Except ε α} {f : α → Except ε β}
    (first : Ends told given (if c then r else s)) (next : ∀ a, given a → Ends told after (f a)) :
    Ends told after (if c then r >>= f else s >>= f) := by
  by_cases h : c
  · simp only [h, if_true] at first ⊢
    exact first.bind next
  · simp only [h, if_false] at first ⊢
    exact first.bind next

theorem ofError {r : Except ε α} {e : ε} (ends : Ends told given r) (failed : r = .error e) :
    told e := by
  subst failed
  exact ends

theorem foldlM {f : β → α → Except ε β} (items : List α)
    (step : ∀ b, ∀ a ∈ items, Tells told (f b a)) (b : β) : Tells told (items.foldlM f b) := by
  induction items generalizing b with
  | nil => trivial
  | cons a rest ih =>
    rw [List.foldlM_cons]
    exact (step b a List.mem_cons_self).bind fun b' _ =>
      ih (fun b x inRest => step b x (List.mem_cons_of_mem a inRest)) b'

theorem mapM {f : α → Except ε β} (items : List α) (step : ∀ a ∈ items, Tells told (f a)) :
    Tells told (items.mapM f) := by
  induction items with
  | nil => trivial
  | cons a rest ih =>
    rw [List.mapM_cons]
    refine (step a List.mem_cons_self).bind fun b _ => ?_
    exact (ih fun x inRest => step x (List.mem_cons_of_mem a inRest)).bind fun bs _ => trivial

end Ends
end ClientGen
