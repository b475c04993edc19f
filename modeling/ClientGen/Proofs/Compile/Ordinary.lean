import ClientGen.Compile
import ClientGen.Proofs.Fault.Ordinary

/-! Compiling a schema fails for ordinary reasons only. -/
namespace ClientGen

namespace Parts

variable (parts : Parts)

@[simp] theorem fieldOrdinary (n : Node) (key : String) : Ordinary (parts.field n key) := by
  unfold field
  split <;> simp

@[simp] theorem entriesOrdinary (n : Node) : Ordinary (parts.entries n) := by
  unfold entries
  split <;> simp

@[simp] theorem itemsOrdinary (n : Node) : Ordinary (parts.items n) := by
  unfold items
  split <;> simp

@[simp] theorem refuseReferenceOrdinary (n : Node) : Ordinary (parts.refuseReference n) := by
  unfold refuseReference
  split
  · split
    · rename_i target _
      rcases parts.unexpectedTold target with ⟨_, told⟩ | told <;> simp [told]
    · simp
  · simp

@[simp] theorem shapeOrdinary (n : Node) : Ordinary (parts.shape n) := by
  simp [shape]

end Parts

namespace Compile

variable (parts : Parts)

@[simp] theorem primitiveOrdinary (n : Node) : Ordinary (primitive parts n) := by
  rcases unsupportedTold parts n with ⟨_, told⟩ | told <;> unfold primitive <;> split <;>
    simp [told]

theorem nameTextOrdinary {fault : Fault} (ordinary : ∀ name, fault ≠ .typeCollision name)
    (n : Node) : Ordinary (nameText parts fault n) := by
  unfold nameText
  split <;> simp [ordinary]

@[simp] theorem chainTextOrdinary (chain : List Node) : Ordinary (chainText parts chain) := by
  induction chain with
  | nil => simp [chainText]
  | cons n rest ih => simp [chainText, nameTextOrdinary, ih]

@[simp] theorem titleNameOrdinary (entries : Entries) : Ordinary (titleName parts entries) := by
  simp [titleName, nameTextOrdinary]

@[simp] theorem requiredKeysOrdinary (entries : Entries) :
    Ordinary (requiredKeys parts entries) := by
  simp [requiredKeys]

@[simp] theorem ownNameOrdinary (title : Option (List Char)) (chain : List Node) :
    Ordinary (ownName parts title chain) := by
  cases title <;> simp [ownName]

theorem fieldsOrdinary {compile : List Node → Node → Compiled TypeRef}
    (inner : ∀ c s, Ordinary (compile c s).result) (chain required : List Node)
    (properties : List (Node × Node)) :
    Ordinary (fields parts compile chain required properties).result := by
  induction properties with
  | nil => simp [fields]
  | cons property rest ih => simp [fields, inner, ih]

theorem recordOrdinary {compile : List Node → Node → Compiled TypeRef}
    (inner : ∀ c s, Ordinary (compile c s).result) (owner : Node) (chain : List Node)
    (entries : Entries) : Ordinary (record parts compile owner chain entries).result := by
  unfold record
  split
  · simp
  · simp [properties, fieldsOrdinary parts inner]

theorem compileAtOrdinary (owner : Node) (fuel : Nat) (chain : List Node) (schema : Node) :
    Ordinary (compileAt parts owner fuel chain schema).result := by
  induction fuel generalizing chain schema with
  | zero => simp [compileAt]
  | succ fuel ih =>
    simp only [compileAt, Trail.bindOrdinary, Trail.liftResult, Parts.shapeOrdinary,
      Parts.entriesOrdinary, true_and]
    intro shape _ entries _
    cases shape <;> simp [ih, recordOrdinary]

end Compile

theorem Parts.compileOrdinary (parts : Parts) (owner : Node) (chain : List Node) (schema : Node) :
    Ordinary (parts.compile owner chain schema).result :=
  Compile.compileAtOrdinary parts owner _ chain schema

end ClientGen
