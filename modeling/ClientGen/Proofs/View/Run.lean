import ClientGen.Proofs.Registry.Adding
import ClientGen.View.Resource

/-! What the views of operations and resources are made of. An operation has one argument for each
parameter in its path, and perhaps one for the rest. A resource has the registry that its calls have
filled, and operations that differ from the compiled ones in the names of their methods only. -/
namespace ClientGen.View

section Operations
variable (parts : Parts) (language : Language) (owner : Node)

structure OperationRun (o : Operation) (v : OperationView) (name : String) (schema : Option Node)
    (isOptional : Bool) (inPath inRest : List ParameterView) : Prop where
  named : operationName (parts.close o.summary) = .ok name
  asked : argumentSchema parts o = .ok schema
  path : (pathParameters parts language owner name (o.located parts "path")).result = .ok inPath
  rest : (argument parts language owner name isOptional (present parts schema)).result = .ok inRest
  fills : Naming.fillPath language.placeholder language.renamed o.path.toList =
    .ok v.templatizedPath.toList
  method : methodName (parts.close o.summary) (parts.close o.id) = .ok v.methodName
  heading : v.summary = parts.close o.summary ∧ v.id = parts.close o.id
  parameters : v.parameters = inPath ++ inRest
  hasParams : v.hasParams = (present parts schema).isSome

structure OperationSource (o : Operation) (v : OperationView) (name : String)
    (schema : Option Node) (isOptional : Bool) (inPath inRest : List ParameterView)
    (media : MediaType) : Prop extends
    OperationRun parts language owner o v name schema isOptional inPath inRest where
  leavesOut : mayLeaveOut parts (present parts schema) = .ok isOptional
  answered : ∃ response, o.defaultResponse parts = .ok response ∧
    response.content.requireDefault = .ok media
  returned : (compiled parts language owner [.str name, .str "Response"] media.schema).result =
    .ok v.returnType
  given : (operation parts language owner o).given =
    (pathParameters parts language owner name (o.located parts "path")).given ++
      ((argument parts language owner name isOptional (present parts schema)).given ++
        (compiled parts language owner [.str name, .str "Response"] media.schema).given)

variable {parts language owner}

theorem operationSource {o : Operation} {v : OperationView}
    (ok : (operation parts language owner o).result = .ok v) :
    ∃ name schema isOptional inPath inRest media,
      OperationSource parts language owner o v name schema isOptional inPath inRest media := by
  unfold operation at ok
  obtain ⟨name, named, ok, given₁⟩ := Trail.bindEnds ok
  obtain ⟨schema, asked, ok, given₂⟩ := Trail.bindEnds ok
  obtain ⟨isOptional, leavesOut, ok, given₃⟩ := Trail.bindEnds ok
  obtain ⟨inPath, path, ok, given₄⟩ := Trail.bindEnds ok
  obtain ⟨inRest, rest, ok, given₅⟩ := Trail.bindEnds ok
  obtain ⟨response, first, ok, given₆⟩ := Trail.bindEnds ok
  obtain ⟨media, preferred, ok, given₇⟩ := Trail.bindEnds ok
  obtain ⟨filled, fills, ok, given₈⟩ := Trail.bindEnds ok
  obtain ⟨method, called, ok, given₉⟩ := Trail.bindEnds ok
  obtain ⟨type, returned, ok, given⟩ := Trail.bindEnds ok
  cases ok
  refine ⟨name, schema, isOptional, inPath, inRest, media,
    ⟨named, asked, path, rest, ?_, called, ⟨rfl, rfl⟩, rfl, rfl⟩, leavesOut,
    ⟨response, first, preferred⟩, returned, ?_⟩
  · simpa using fills
  · rw [operation, given₁, given₂, given₃, given₄, given₅, given₆, given₇, given₈, given₉, given]
    simp only [Trail.liftGiven, List.nil_append, Trail.pureGiven, List.append_nil]

theorem operationRuns {o : Operation} {v : OperationView}
    (ok : (operation parts language owner o).result = .ok v) :
    ∃ name schema isOptional inPath inRest,
      OperationRun parts language owner o v name schema isOptional inPath inRest := by
  obtain ⟨name, schema, isOptional, inPath, inRest, _, source⟩ := operationSource ok
  exact ⟨name, schema, isOptional, inPath, inRest, source.toOperationRun⟩

theorem pathParametersShown {name : String} {ps : List Parameter} {vs : List ParameterView}
    (ok : (pathParameters parts language owner name ps).result = .ok vs) :
    (ps.map fun p => language.parameterName (parts.close p.name)) = vs.map fun v => .ok v.name := by
  induction ps generalizing vs with
  | nil =>
    cases ok
    rfl
  | cons p rest ih =>
    obtain ⟨shown, named, ok, _⟩ := Trail.bindEnds ok
    obtain ⟨type, _, ok, _⟩ := Trail.bindEnds ok
    obtain ⟨vs', others, ok, _⟩ := Trail.bindEnds ok
    cases ok
    exact congr (congrArg List.cons named) (ih others)

theorem argumentShown {name : String} {isOptional : Bool} {schema : Option Node}
    {vs : List ParameterView}
    (ok : (argument parts language owner name isOptional schema).result = .ok vs) :
    vs.map (·.name) = if schema.isSome then [.str "params"] else [] := by
  cases schema with
  | none =>
    cases ok
    rfl
  | some schema =>
    obtain ⟨type, _, ok, _⟩ := Trail.bindEnds ok
    cases ok
    rfl

end Operations

variable (parts : Parts) (language : Language) (strict : Bool) (r : Resource)

def handedOut : List Spelled := (compiledOperations parts language r).given.map language.dialect.define

def registry : Registry :=
  ((Registry.empty strict).absorb
    ((compiledOperations parts language r).mapGiven language.dialect.define)).1

structure Run (className : String) (view : ResourceView) : Prop where
  added : ((Registry.empty strict).addAll (handedOut parts language r)).2.result = .ok ()
  types : View.types language (registry parts language strict r).types = .ok view.types
  given : (resource parts language strict r className).given =
    ((Registry.empty strict).addAll (handedOut parts language r)).2.given ++
      [.compiled (parts.plainText r.name) view.types.length view.operations.length]
  imported : view.usesImported =
    (references view.types view.operations).any (mentions language.dialect.imported)
  operations : ∃ os, (compiledOperations parts language r).result = .ok os ∧
    view.operations = withUniqueNames os

variable {parts language strict r}

theorem resourceAbsorbs (className : String) :
    resource parts language strict r className =
      ((Registry.empty strict).absorb
        ((compiledOperations parts language r).mapGiven language.dialect.define)).2 >>=
      finish parts language r className (registry parts language strict r) := rfl

theorem resourceRuns {className : String} {view : ResourceView}
    (ok : (resource parts language strict r className).result = .ok view) :
    Run parts language strict r className view := by
  rw [resourceAbsorbs] at ok
  obtain ⟨os, absorbed, ok, given⟩ := Trail.bindEnds ok
  obtain ⟨added, compiled, _, reported⟩ := Registry.absorbEnds absorbed
  rw [finish] at ok
  obtain ⟨types, shown, ok, first⟩ := Trail.bindEnds ok
  obtain ⟨_, _, ok, second⟩ := Trail.bindEnds ok
  obtain ⟨title, _, ok, third⟩ := Trail.bindEnds ok
  cases ok
  refine ⟨added, shown, ?_, rfl, os, compiled, rfl⟩
  rw [resourceAbsorbs, given, reported, finish, first, second, third]
  rfl

end ClientGen.View
