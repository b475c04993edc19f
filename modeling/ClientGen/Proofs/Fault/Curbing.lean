import ClientGen.Fault

/-! A computation that is curbed either stops for the curb or does what it does without it. -/
namespace ClientGen

variable {ε α β γ δ : Type} {stop : ε → Prop} {free : α → β} {free' : γ → δ}

def Curbed (stop : ε → Prop) (free : α → β) (curbed : Except ε α) (loose : Except ε β) : Prop :=
  (∃ e, curbed = .error e ∧ stop e) ∨ loose = curbed.map free

namespace Curbed

theorem stopped {e : ε} {loose : Except ε β} (told : stop e) :
    Curbed stop free (.error e) loose := .inl ⟨e, rfl, told⟩

theorem ok (a : α) : Curbed stop free (.ok a) (.ok (free a)) := .inr rfl

theorem error (e : ε) : Curbed stop free (.error e) (.error e) := .inr rfl

theorem same (r : Except ε α) : Curbed stop id r r := .inr (by cases r <;> rfl)

theorem bind {r : Except ε α} {s : Except ε β} {f : α → Except ε γ} {g : β → Except ε δ}
    (first : Curbed stop free r s) (next : ∀ a, Curbed stop free' (f a) (g (free a))) :
    Curbed stop free' (r >>= f) (s >>= g) := by
  rcases first with ⟨e, rfl, told⟩ | rfl
  · exact stopped told
  · cases r with
    | error e => exact error e
    | ok a => exact next a

theorem branch {c : Prop} [Decidable c] {r r' : Except ε α} {s s' : Except ε β}
    (yes : Curbed stop free r s) (no : Curbed stop free r' s') :
    Curbed stop free (if c then r else r') (if c then s else s') := by
  by_cases h : c
  · simpa [h] using yes
  · simpa [h] using no

theorem jump {c : Prop} [Decidable c] {r r' : Except ε α} {s s' : Except ε β}
    {f : α → Except ε γ} {g : β → Except ε δ}
    (first : Curbed stop free (if c then r else r') (if c then s else s'))
    (next : ∀ a, Curbed stop free' (f a) (g (free a))) :
    Curbed stop free' (if c then r >>= f else r' >>= f) (if c then s >>= g else s' >>= g) := by
  by_cases h : c
  · simp only [h, if_true] at first ⊢
    exact first.bind next
  · simp only [h, if_false] at first ⊢
    exact first.bind next

theorem alternatives {r s : Except ε α} (curbed : Curbed stop id r s) :
    r = s ∨ ∃ e, r = .error e ∧ stop e := by
  rcases curbed with stopped | rfl
  · exact .inr stopped
  · cases r <;> exact .inl rfl

end Curbed
end ClientGen
