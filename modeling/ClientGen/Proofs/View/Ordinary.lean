import ClientGen.Proofs.Compile.Ordinary
import ClientGen.View.Resource

/-! Building the view of a resource fails for ordinary reasons only, up to its types being added to
a registry. -/
namespace ClientGen

theorem readEachOrdinary {α β : Type} {read : α → Except Fault β}
    (each : ∀ a, Ordinary (read a)) (as : List α) : Ordinary (readEach read as) := by
  induction as with
  | nil => simp [readEach]
  | cons a rest ih => simp [readEach, each, ih]

@[simp] theorem Content.requireDefaultOrdinary (c : Content) : Ordinary c.requireDefault := by
  unfold requireDefault
  split <;> simp

namespace Naming

@[simp] theorem layoutOrdinary (l : Layout) (s : List Char) : Ordinary (l.apply s) := by
  simp [Layout.apply]

@[simp] theorem convertedOrdinary (kind : Conversion) (name : List Char) :
    Ordinary (converted kind name) := by
  cases kind <;> simp [converted]

@[simp] theorem fillPiecesOrdinary (name : List Char) (used : Bool) (ps : List Piece) :
    Ordinary (fillPieces name used ps) := by
  induction ps generalizing used with
  | nil => simp [fillPieces]
  | cons p rest ih =>
    cases p <;> cases used <;> simp [fillPieces, ih]

@[simp] theorem fillPathOrdinary (pattern : List Char) (rename : List Char → List Char)
    (path : List Char) : Ordinary (fillPath pattern rename path) := by
  have from_ (fuel : Nat) (s : List Char) : Ordinary (fillPathFrom fuel pattern rename s) := by
    induction fuel generalizing s with
    | zero => simp [fillPathFrom]
    | succ fuel ih =>
      cases s with
      | nil => simp [fillPathFrom]
      | cons c rest =>
        rw [fillPathFrom]
        split <;> simp [fill, ih]
  exact from_ _ _

end Naming

namespace Operation

variable (parts : Parts) (o : Operation)

@[simp] theorem defaultResponseOrdinary : Ordinary (o.defaultResponse parts) := by
  unfold defaultResponse
  split <;> simp

@[simp] theorem nameKeyOrdinary (name : Node) : Ordinary (nameKey parts name) := by
  simp [nameKey]

@[simp] theorem querySchemaOrdinary : Ordinary (o.querySchema parts) := by
  unfold querySchema
  split
  · simp
  · simp [readEachOrdinary]

end Operation

namespace View

variable (parts : Parts) (language : Language) (owner : Node)

@[simp] theorem operationNameOrdinary (summary : Node) : Ordinary (operationName summary) := by
  unfold operationName
  split
  · split <;> simp
  · simp

@[simp] theorem methodNameOrdinary (summary id : Node) : Ordinary (methodName summary id) := by
  unfold methodName
  split <;> split
  · split <;> simp
  · simp
  · split <;> simp
  · simp

@[simp] theorem argumentSchemaOrdinary (o : Operation) : Ordinary (argumentSchema parts o) := by
  simp [argumentSchema]

@[simp] theorem mayLeaveOutOrdinary (schema : Option Node) :
    Ordinary (mayLeaveOut parts schema) := by
  cases schema <;> simp [mayLeaveOut]

@[simp] theorem parameterNameOrdinary (name : Node) : Ordinary (language.parameterName name) := by
  cases language <;> cases name <;> simp [Language.parameterName]

@[simp] theorem compiledOrdinary (chain : List Node) (schema : Node) :
    Ordinary (compiled parts language owner chain schema).result := by
  simp [compiled, Parts.compileOrdinary]

@[simp] theorem pathParametersOrdinary (name : String) (ps : List Parameter) :
    Ordinary (pathParameters parts language owner name ps).result := by
  induction ps with
  | nil => simp [pathParameters]
  | cons p rest ih => simp [pathParameters, ih]

@[simp] theorem argumentOrdinary (name : String) (isOptional : Bool) (schema : Option Node) :
    Ordinary (argument parts language owner name isOptional schema).result := by
  cases schema <;> simp [argument]

theorem operationOrdinary (o : Operation) :
    Ordinary (operation parts language owner o).result := by
  simp [operation]

theorem operationsOrdinary (os : List Operation) :
    Ordinary (operations parts language owner os).result := by
  induction os with
  | nil => simp [operations]
  | cons o rest ih => simp [operations, operationOrdinary, ih]

theorem compiledOperationsOrdinary (r : Resource) :
    Ordinary (compiledOperations parts language r).result := by
  simp [compiledOperations, Parts.compileOrdinary, operationsOrdinary]

@[simp] theorem fieldsOrdinary (fs : List (Field String)) : Ordinary (fields language fs) := by
  have each (f : Field String) : Ordinary (field language f) := by
    unfold field
    split <;> simp
  induction fs with
  | nil => simp [fields]
  | cons f rest ih => simp [fields, each, ih]

@[simp] theorem typesOrdinary (ds : List Spelled) : Ordinary (types language ds) := by
  induction ds with
  | nil => simp [types]
  | cons d rest ih => simp [types, type, ih]

@[simp] theorem titleOrdinary (r : Resource) : Ordinary (r.title parts) := by
  simp [Resource.title]

theorem finishOrdinary (r : Resource) (className : String) (registry : Registry)
    (os : List OperationView) :
    Ordinary (finish parts language r className registry os).result := by
  simp [finish]

theorem namespacesOrdinary (rs : List Resource) : Ordinary (namespaces parts language rs) := by
  have text (title : Node) : Ordinary (titleText title) := by
    unfold titleText
    split <;> simp
  have base (r : Resource) : Ordinary (baseName parts r) := by
    simp [baseName, text]
  have each (r : Resource) : Ordinary (namespaceOf parts language r) := by
    unfold namespaceOf
    cases r.name <;> simp [moduleName, className, base]
  induction rs with
  | nil => simp [namespaces]
  | cons r rest ih => simp [namespaces, each, ih]

end View
end ClientGen
