import ClientGen.Proofs.Compile.Cycles
import ClientGen.Proofs.Registry.Replaying

/-! Compiling a schema whose keys stand apart, at any depth. So do those of every definition that it
hands out, also when the compilation fails later. -/
namespace ClientGen
namespace Compile
open Relation

variable {parts : Parts} {owner : Node}

theorem emptyKeyed : parts.Keyed (.map []) := by
  refine .of ⟨by simp, by simp⟩ fun m member => ?_
  simp [Parts.view, Node.members] at member

theorem openedKeyed {schema s : Node} (keyed : parts.Keyed schema)
    (step : Opens parts owner schema s) : parts.Keyed s := by
  rcases opensInside step with deeper | rfl
  · exact keyed.within deeper.to_reflTransGen
  · exact emptyKeyed

theorem propertyNameUsable {schema : Node} (keyed : parts.Keyed schema) {es properties : Entries}
    (held : parts.entries schema = .ok es) (holds : Compile.properties parts es = .ok properties)
    {p : Node × Node} (member : p ∈ properties) : p.1.hashable = true := by
  obtain ⟨v, found, shown⟩ := propertiesShown holds (List.ne_nil_of_mem member)
  have table := keyed v (.single (valueInside (Parts.entriesView held) found))
  rw [shown] at table
  exact table.1 _ (List.mem_map_of_mem member)

theorem textKeyed {schema text : Node} (keyed : parts.Keyed schema) {key : String}
    (found : parts.field schema key = .ok text) : (parts.close text).KeyedThroughout := by
  unfold Parts.field at found
  split at found
  · rename_i es shown
    cases found
    cases there : Entries.at? key es with
    | none => exact Parts.closeKeyed (.of trivial (by simp [Parts.view, Node.members]))
    | some v => exact Parts.closeKeyed (keyed.inner (valueInside shown there))
  · contradiction

theorem fieldKeyed {Yields chain required} {p : Node × Node} {f : Field TypeRef}
    (usable : p.1.hashable = true) (keyed : parts.Keyed p.2)
    (field : FieldOf parts Yields chain required p f) : f.Keyed := by
  obtain ⟨text, found, comment⟩ := field.comment
  refine ⟨?_, ?_⟩
  · rw [field.name]
    exact Node.keyedUsable usable
  · rw [comment]
    exact textKeyed keyed found

theorem compileAtKeyed {fuel : Nat} {chain : List Node} {schema : Node}
    (keyed : parts.Keyed schema) :
    ∀ x ∈ (compileAt parts owner fuel chain schema).given, x.Keyed := by
  induction fuel generalizing chain schema with
  | zero => simp [compileAt]
  | succ fuel ih =>
    intro x handed
    cases handedBy handed with
    | call call inner => exact ih (openedKeyed keyed (callOpens call)) x inner
    | own shape held own ends run last =>
      rw [last]
      intro f shown
      obtain ⟨p, member, field⟩ := propertyOfField run.fields shown
      have inner := openedKeyed keyed (.property shape held own run.holds member)
      exact fieldKeyed (propertyNameUsable keyed held run.holds member) inner field

theorem definedKeyed {d : Dialect} {x : Definition TypeRef} (keyed : x.Keyed) :
    (d.define x).Keyed := by
  intro f member
  obtain ⟨g, there, rfl⟩ := List.mem_map.mp member
  exact keyed g there

end Compile
end ClientGen
