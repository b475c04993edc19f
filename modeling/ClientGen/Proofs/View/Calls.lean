import ClientGen.Proofs.Compile.Formed
import ClientGen.Proofs.View.Run

/-! Which schemas a resource has compiled: its own, and for every operation those of the path
parameters, of the argument and of the response. What the resource hands out is what these calls
hand out, and every type that its operations show is a type that one of them comes to. -/
namespace ClientGen.View

variable {parts : Parts} {language : Language} {owner : Node}

inductive OperationCalls (parts : Parts) (o : Operation) : List Node → Node → Prop
  | path {name p} (named : operationName (parts.close o.summary) = .ok name)
      (member : p ∈ o.located parts "path") :
      OperationCalls parts o [.str name, p.name, .str "Path"] p.schema
  | argument {name asked schema} (named : operationName (parts.close o.summary) = .ok name)
      (asks : argumentSchema parts o = .ok asked) (there : present parts asked = some schema) :
      OperationCalls parts o [.str name, .str "Params"] schema
  | response {name response media} (named : operationName (parts.close o.summary) = .ok name)
      (first : o.defaultResponse parts = .ok response)
      (preferred : response.content.requireDefault = .ok media) :
      OperationCalls parts o [.str name, .str "Response"] media.schema

inductive Starts (parts : Parts) (r : Resource) : List Node → Node → Prop
  | own : Starts parts r [r.name] r.schema
  | operation {o chain schema} (member : o ∈ r.operations)
      (call : OperationCalls parts o chain schema) : Starts parts r chain schema

structure Covers (parts : Parts) (language : Language) (owner : Node)
    (calls : List Node → Node → Prop) (given : List (Definition TypeRef)) (types : List String) :
    Prop where
  ends : ∀ c s, calls c s → ∃ t, (parts.compile owner c s).result = .ok t ∧
    (parts.compile owner c s).given ⊆ given
  source : ∀ d ∈ given, ∃ c s, calls c s ∧ d ∈ (parts.compile owner c s).given
  types : ∀ type ∈ types, ∃ c s t, calls c s ∧ (parts.compile owner c s).result = .ok t ∧
    type = language.dialect.spell t

namespace Covers

theorem none : Covers parts language owner (fun _ _ => False) [] [] :=
  ⟨by simp, by simp, by simp⟩

theorem both {calls calls' : List Node → Node → Prop} {given given' types types'}
    (left : Covers parts language owner calls given types)
    (right : Covers parts language owner calls' given' types') :
    Covers parts language owner (fun c s => calls c s ∨ calls' c s) (given ++ given')
      (types ++ types') := by
  refine ⟨fun c s call => ?_, fun d member => ?_, fun type member => ?_⟩
  · rcases call with call | call
    · obtain ⟨t, ok, handed⟩ := left.ends c s call
      exact ⟨t, ok, List.Subset.trans handed (List.subset_append_left _ _)⟩
    · obtain ⟨t, ok, handed⟩ := right.ends c s call
      exact ⟨t, ok, List.Subset.trans handed (List.subset_append_right _ _)⟩
  · rcases List.mem_append.mp member with member | member
    · obtain ⟨c, s, call, handed⟩ := left.source d member
      exact ⟨c, s, .inl call, handed⟩
    · obtain ⟨c, s, call, handed⟩ := right.source d member
      exact ⟨c, s, .inr call, handed⟩
  · rcases List.mem_append.mp member with member | member
    · obtain ⟨c, s, t, call, rest⟩ := left.types type member
      exact ⟨c, s, t, .inl call, rest⟩
    · obtain ⟨c, s, t, call, rest⟩ := right.types type member
      exact ⟨c, s, t, .inr call, rest⟩

theorem congr {calls calls' : List Node → Node → Prop} {given types types'}
    (covers : Covers parts language owner calls given types)
    (same : ∀ c s, calls c s ↔ calls' c s) (fewer : types' ⊆ types) :
    Covers parts language owner calls' given types' := by
  refine ⟨fun c s call => covers.ends c s ((same c s).mpr call), fun d member => ?_,
    fun type member => ?_⟩
  · obtain ⟨c, s, call, handed⟩ := covers.source d member
    exact ⟨c, s, (same c s).mp call, handed⟩
  · obtain ⟨c, s, t, call, rest⟩ := covers.types type (fewer member)
    exact ⟨c, s, t, (same c s).mp call, rest⟩

theorem single {chain : List Node} {schema : Node} {type : String}
    (ok : (compiled parts language owner chain schema).result = .ok type) :
    Covers parts language owner (fun c s => c = chain ∧ s = schema)
      (compiled parts language owner chain schema).given [type] := by
  unfold compiled at ok ⊢
  obtain ⟨t, ends, ok, given⟩ := Trail.bindEnds ok
  rw [given]
  cases ok
  refine ⟨?_, fun d member => ⟨chain, schema, ⟨rfl, rfl⟩, by simpa using member⟩, ?_⟩
  · rintro c s ⟨rfl, rfl⟩
    exact ⟨t, ends, by simp⟩
  · intro type member
    cases List.mem_singleton.mp member
    exact ⟨chain, schema, t, ⟨rfl, rfl⟩, ends, rfl⟩

end Covers

theorem pathParametersCover {name : String} {ps : List Parameter} {vs : List ParameterView}
    (ok : (pathParameters parts language owner name ps).result = .ok vs) :
    Covers parts language owner
      (fun c s => ∃ p ∈ ps, c = [.str name, p.name, .str "Path"] ∧ s = p.schema)
      (pathParameters parts language owner name ps).given (vs.map (·.type)) := by
  induction ps generalizing vs with
  | nil =>
    cases ok
    exact Covers.none.congr (by simp) (by simp)
  | cons p rest ih =>
    rw [pathParameters] at ok ⊢
    obtain ⟨shown, _, ok, given⟩ := Trail.bindEnds ok
    rw [given]
    obtain ⟨type, here, ok, given⟩ := Trail.bindEnds ok
    rw [given]
    obtain ⟨vs', others, ok, given⟩ := Trail.bindEnds ok
    rw [given]
    cases ok
    have all := (Covers.single here).both (ih others)
    simp only [Trail.liftGiven, List.nil_append, Trail.pureGiven, List.append_nil]
    exact all.congr (by simp) (by simp)

theorem argumentCovers {name : String} {isOptional : Bool} {schema : Option Node}
    {vs : List ParameterView}
    (ok : (argument parts language owner name isOptional schema).result = .ok vs) :
    Covers parts language owner
      (fun c s => schema = some s ∧ c = [.str name, .str "Params"])
      (argument parts language owner name isOptional schema).given (vs.map (·.type)) := by
  cases schema with
  | none =>
    cases ok
    exact Covers.none.congr (by simp) (by simp)
  | some schema =>
    rw [argument] at ok ⊢
    obtain ⟨type, here, ok, given⟩ := Trail.bindEnds ok
    rw [given]
    cases ok
    simp only [Trail.pureGiven, List.append_nil]
    refine (Covers.single here).congr (fun c s => ?_) (by simp)
    simp [and_comm, eq_comm]

def OperationView.types (v : OperationView) : List String :=
  v.returnType :: v.parameters.map (·.type)

theorem operationCovers {o : Operation} {v : OperationView}
    (ok : (operation parts language owner o).result = .ok v) :
    Covers parts language owner (OperationCalls parts o)
      (operation parts language owner o).given (OperationView.types v) := by
  obtain ⟨name, schema, isOptional, inPath, inRest, media, source⟩ := operationSource ok
  obtain ⟨response, first, preferred⟩ := source.answered
  have all := (pathParametersCover source.path).both
    ((argumentCovers source.rest).both (Covers.single source.returned))
  rw [← source.given] at all
  refine all.congr (fun c s => ⟨?_, ?_⟩) ?_
  · rintro (⟨p, member, rfl, rfl⟩ | ⟨there, rfl⟩ | ⟨rfl, rfl⟩)
    · exact .path source.named member
    · exact .argument source.named source.asked there
    · exact .response source.named first preferred
  · intro call
    cases call with
    | path named' member =>
      cases source.named.symm.trans named'
      exact .inl ⟨_, member, rfl, rfl⟩
    | argument named' asks' there =>
      cases source.named.symm.trans named'
      cases source.asked.symm.trans asks'
      exact .inr (.inl ⟨there, rfl⟩)
    | response named' first' preferred' =>
      cases source.named.symm.trans named'
      cases first.symm.trans first'
      cases preferred.symm.trans preferred'
      exact .inr (.inr ⟨rfl, rfl⟩)
  · intro type member
    simp only [OperationView.types, source.parameters, List.map_append, List.mem_cons,
      List.mem_append] at member ⊢
    rcases member with rfl | inPath | inRest
    · exact .inr (.inr (.inl rfl))
    · exact .inl inPath
    · exact .inr (.inl inRest)

theorem operationsCover {os : List Operation} {vs : List OperationView}
    (ok : (operations parts language owner os).result = .ok vs) :
    Covers parts language owner (fun c s => ∃ o ∈ os, OperationCalls parts o c s)
      (operations parts language owner os).given (vs.flatMap OperationView.types) := by
  induction os generalizing vs with
  | nil =>
    cases ok
    exact Covers.none.congr (by simp) (by simp)
  | cons o rest ih =>
    rw [operations] at ok ⊢
    obtain ⟨v, here, ok, given⟩ := Trail.bindEnds ok
    rw [given]
    obtain ⟨vs', others, ok, given⟩ := Trail.bindEnds ok
    rw [given]
    cases ok
    have all := (operationCovers here).both (ih others)
    simp only [Trail.pureGiven, List.append_nil]
    exact all.congr (by simp) (by simp)

theorem compiledOperationsCover {r : Resource} {vs : List OperationView}
    (ok : (compiledOperations parts language r).result = .ok vs) :
    Covers parts language r.name (Starts parts r) (compiledOperations parts language r).given
      (vs.flatMap OperationView.types) := by
  unfold compiledOperations at ok ⊢
  obtain ⟨t, own, ok, given⟩ := Trail.bindEnds ok
  rw [given]
  have first : (compiled parts language r.name [r.name] r.schema).result =
      .ok (language.dialect.spell t) := by
    unfold compiled
    rw [Trail.bindResult _ own]
    rfl
  have handed : (compiled parts language r.name [r.name] r.schema).given =
      (parts.compile r.name [r.name] r.schema).given := by
    unfold compiled
    rw [Trail.bindGiven _ own]
    simp
  have single := Covers.single first
  rw [handed] at single
  have all := single.both (operationsCover ok)
  refine all.congr (fun c s => ⟨?_, ?_⟩) (by simp)
  · rintro (⟨rfl, rfl⟩ | ⟨o, member, call⟩)
    · exact .own
    · exact .operation member call
  · intro start
    cases start with
    | own => exact .inl ⟨rfl, rfl⟩
    | operation member call => exact .inr ⟨_, member, call⟩

end ClientGen.View
