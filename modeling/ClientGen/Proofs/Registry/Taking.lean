import ClientGen.Language
import ClientGen.Compile
import ClientGen.Registry
import ClientGen.Proofs.Registry.Strictness

/-! A registry that takes what a computation hands out. -/
namespace ClientGen

def Registry.take (r : Registry) (d : Dialect) (t : Compile.Compiled TypeRef) :
    Registry × Report String :=
  let (r, report) := r.absorb (t.mapGiven d.define)
  (r, ⟨report.given, report.result.map d.spell⟩)

namespace Registry

-- A registry that is not strict sets every definition, reported or not.
theorem addLax {r : Registry} (lax : r.strict = false) (x : Spelled) :
    (r.add x).1 = ⟨false, setType x r.types⟩ ∧ (r.add x).2.result = .ok () := by
  cases other : r.differs x <;> simp [add, other, lax]

theorem takeLax {r : Registry} (lax : r.strict = false) (d : Dialect)
    (t : Compile.Compiled TypeRef) : (r.take d t).2.result = t.result.map d.spell := by
  simp only [take, absorb, Trail.mapGiven, addAllLax lax (t.given.map d.define)]

end Registry
end ClientGen
