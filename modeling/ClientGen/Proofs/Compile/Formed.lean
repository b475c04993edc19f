import ClientGen.Proofs.Compile.Calls
import ClientGen.Proofs.Node.Formed
import ClientGen.Proofs.Registry.Adding

/-! Compiling a well-formed schema of a well-formed document hands out definitions whose names and
comments are well formed. -/
namespace ClientGen.Compile

variable {parts : Parts} {owner : Node}

theorem itemSchemaFormed {entries : Entries} (ok : Node.wellFormedEntries entries = true) :
    (itemSchema parts entries).wellFormed = true :=
  Parts.orElseFormed (Node.valueFormed ok "items") rfl

theorem propertiesFormed (rows : parts.wellFormed = true) {entries held : Entries}
    (ok : Node.wellFormedEntries entries = true)
    (found : properties parts entries = .ok held) : Node.wellFormedEntries held = true :=
  Parts.entriesFormed rows (Parts.orElseFormed (Node.valueFormed ok "properties") rfl) found

theorem fieldFormed (rows : parts.wellFormed = true) {Yields chain required} {p : Node × Node}
    {f : Field TypeRef} (ok : p.1.hashable = true ∧ p.2.wellFormed = true)
    (field : FieldOf parts Yields chain required p f) : f.WellFormed := by
  obtain ⟨text, found, comment⟩ := field.comment
  refine ⟨?_, ?_⟩
  · rw [field.name]
    exact Node.wellFormedOfUsable ok.1
  · rw [comment]
    exact Parts.closeFormed rows (Parts.fieldFormed rows ok.2 found)

theorem propertyFormed (rows : parts.wellFormed = true) {schema : Node}
    (ok : schema.wellFormed = true) {entries properties : Entries}
    (held : parts.entries schema = .ok entries)
    (holds : Compile.properties parts entries = .ok properties) {p : Node × Node}
    (member : p ∈ properties) : p.1.hashable = true ∧ p.2.wellFormed = true := by
  have inside := propertiesFormed rows (Parts.entriesFormed rows ok held) holds
  exact (Node.wellFormedEntriesIff.mp inside).1 p member

theorem callFormed (rows : parts.wellFormed = true) {chain c : List Node} {schema s : Node}
    (ok : schema.wellFormed = true) (call : Calls parts owner chain schema c s) :
    s.wellFormed = true := by
  cases call with
  | item shape held => exact itemSchemaFormed (Parts.entriesFormed rows ok held)
  | property shape held own titled holds member => exact (propertyFormed rows ok held holds member).2

theorem compileAtFormed (rows : parts.wellFormed = true) {fuel : Nat} {chain : List Node}
    {schema : Node} (ok : schema.wellFormed = true) :
    ∀ d ∈ (compileAt parts owner fuel chain schema).given, d.WellFormed := by
  induction fuel generalizing chain schema with
  | zero => simp [compileAt]
  | succ fuel ih =>
    intro d handed
    cases handedBy handed with
    | call call inner => exact ih (callFormed rows ok call) d inner
    | own shape held own ends run last =>
      rw [last]
      intro f shown
      obtain ⟨p, member, field⟩ := propertyOfField run.fields shown
      exact fieldFormed rows (propertyFormed rows ok held run.holds member) field

end ClientGen.Compile
