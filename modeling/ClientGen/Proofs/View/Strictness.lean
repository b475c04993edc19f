import ClientGen.Proofs.Registry.Strictness
import ClientGen.Proofs.View.Ordinary
import ClientGen.Proofs.View.Run

/-! Compiling a resource strictly and otherwise. The reports are the same up to the first
redefinition; there the strict one ends with the refusal of the definition. -/
namespace ClientGen

inductive Trail.Stricter {α : Type} : Report α → Report α → Prop
  | same {t} (quiet : ∀ name, Event.redefined name ∉ t.given) : Stricter t t
  | refused {name before after result} (quiet : ∀ other, Event.redefined other ∉ before) :
      Stricter ⟨before, .error (.typeCollision name)⟩
        ⟨before ++ .redefined name :: after, result⟩

theorem Trail.bindHead {ω α β : Type} {t : Trail ω α} {w : ω} {rest : List ω}
    (given : t.given = w :: rest) (f : α → Trail ω β) :
    ∃ after result, t >>= f = ⟨w :: after, result⟩ := by
  cases ended : t.result with
  | error fault => exact ⟨rest, .error fault, by rw [bindFails f ended, given]⟩
  | ok a =>
    refine ⟨rest ++ (f a).given, (f a).result, ?_⟩
    simp only [bind, andThen, ended, given, List.cons_append]

namespace View

variable (parts : Parts) (language : Language) (r : Resource) (className : String)

theorem finishQuiet (registry : Registry) (os : List OperationView) (name : String) :
    Event.redefined name ∉ (finish parts language r className registry os).given := by
  simp only [finish, Trail.givenMember, Trail.liftGiven, Trail.giveGiven, Trail.pureGiven]
  simp

theorem finishSame {registry registry' : Registry} (same : registry.types = registry'.types) :
    finish parts language r className registry = finish parts language r className registry' := by
  funext os
  rw [finish, finish, same]

theorem resourceStricter :
    Trail.Stricter (resource parts language true r className)
      (resource parts language false r className) := by
  rw [resourceAbsorbs, resourceAbsorbs, registry, registry]
  rcases Registry.absorbStricter
    ((compiledOperations parts language r).mapGiven language.dialect.define) with
    ⟨_, _, result, strict, lax, same⟩ | ⟨name, rest, refused, reported⟩
  · rw [strict, lax, finishSame parts language r className same]
    refine .same fun name member => ?_
    rcases Trail.givenMember.mp member with early | ⟨os, _, late⟩
    · cases early
    · exact finishQuiet parts language r className _ os name late
  · obtain ⟨after, result, lax⟩ := Trail.bindHead reported
      (finish parts language r className (registry parts language false r))
    rw [registry] at lax
    rw [lax, refused]
    exact .refused (by simp)

end View
end ClientGen
