import ClientGen.Proofs.Registry.Adding

/-! A strict registry beside one that is not. They do the same up to the first definition that
differs from the one under its name; there the strict one refuses and the other reports. -/
namespace ClientGen

namespace Registry

theorem addAllAlike {r : Registry} {d : Spelled} (alike : r.differs d = false)
    (rest : List Spelled) :
    r.addAll (d :: rest) = (⟨r.strict, setType d r.types⟩ : Registry).addAll rest := by
  simp [addAll, addAlike alike]

theorem addAllRefused {r : Registry} {d : Spelled} (other : r.differs d = true)
    (strict : r.strict = true) (rest : List Spelled) :
    r.addAll (d :: rest) = (r, Trail.fail (.typeCollision d.name)) := by
  simp [addAll, addRefused other strict]

theorem addAllReported {r : Registry} {d : Spelled} (other : r.differs d = true)
    (lax : r.strict = false) (rest : List Spelled) :
    (r.addAll (d :: rest)).2.given = .redefined d.name ::
      ((⟨r.strict, setType d r.types⟩ : Registry).addAll rest).2.given := by
  simp [addAll, addReported other lax]

theorem addAllLax {r : Registry} (lax : r.strict = false) (ds : List Spelled) :
    (r.addAll ds).2.result = .ok () := by
  induction ds generalizing r with
  | nil => rfl
  | cons d rest ih =>
    have later := @ih ⟨r.strict, setType d r.types⟩ lax
    cases other : r.differs d with
    | false => rw [addAllAlike other, later]
    | true => simp [addAll, addReported other lax, later]

theorem addAllStricter (types ds : List Spelled) :
    (∃ r r' : Registry, ∃ result, (⟨true, types⟩ : Registry).addAll ds = (r, ⟨[], result⟩) ∧
      (⟨false, types⟩ : Registry).addAll ds = (r', ⟨[], result⟩) ∧ r.types = r'.types) ∨
    ∃ name rest, ((⟨true, types⟩ : Registry).addAll ds).2 = Trail.fail (.typeCollision name) ∧
      ((⟨false, types⟩ : Registry).addAll ds).2.given = .redefined name :: rest := by
  induction ds generalizing types with
  | nil => exact .inl ⟨_, _, _, rfl, rfl, rfl⟩
  | cons d rest ih =>
    cases other : (⟨true, types⟩ : Registry).differs d with
    | false =>
      have lax : (⟨false, types⟩ : Registry).differs d = false := other
      rw [addAllAlike other, addAllAlike lax]
      exact ih (setType d types)
    | true =>
      have lax : (⟨false, types⟩ : Registry).differs d = true := other
      rw [addAllRefused other rfl]
      exact .inr ⟨d.name, _, rfl, addAllReported lax rfl rest⟩

theorem absorbStricter {α : Type} (t : Trail Spelled α) :
    (∃ r r' : Registry, ∃ result, (empty true).absorb t = (r, ⟨[], result⟩) ∧
      (empty false).absorb t = (r', ⟨[], result⟩) ∧ r.types = r'.types) ∨
    ∃ name rest, ((empty true).absorb t).2 = Trail.fail (.typeCollision name) ∧
      ((empty false).absorb t).2.given = .redefined name :: rest := by
  rcases addAllStricter [] t.given with
    ⟨r, r', result, strict, lax, same⟩ | ⟨name, rest, refused, reported⟩
  · refine .inl ⟨r, r', ((empty false).absorb t).2.result, ?_, ?_, same⟩
    · simp only [absorb, empty, strict, lax]
    · simp only [absorb, empty, lax]
  · refine .inr ⟨name, rest, ?_, reported⟩
    simp only [absorb, empty, refused]
    rfl

end Registry
end ClientGen
