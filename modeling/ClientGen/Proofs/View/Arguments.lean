import ClientGen.Proofs.Naming.Words
import ClientGen.Proofs.View.Run

/-! The arguments of a method: its path parameters, under the names that the language gives them, and
perhaps one for the rest. They go together only if all are names and no two are one, and none is
the argument that every method has. -/
namespace ClientGen

def Language.ownArgument : Language → String
  | .typescript => "options"
  | .python => "self"

structure GoTogether (language : Language) (names : List Node) : Prop where
  named : ∀ n ∈ names, ∃ s, n = .str s ∧ language.isName s.toList = true
  apart : names.Nodup
  own : .str language.ownArgument ∉ names

namespace View
open Naming

variable {parts : Parts} {language : Language} {owner : Node}

theorem operationArguments {o : Operation} {v : OperationView}
    (ok : (operation parts language owner o).result = .ok v) :
    (∃ schema, argumentSchema parts o = .ok schema ∧
      v.hasParams = (present parts schema).isSome) ∧
    ∃ inPath : List Node,
      ((o.located parts "path").map fun p => parts.close p.name).map language.parameterName =
        inPath.map .ok ∧
      v.parameters.map (·.name) = inPath ++ if v.hasParams then [.str "params"] else [] := by
  obtain ⟨name, schema, isOptional, inPath, inRest, run⟩ := operationRuns ok
  refine ⟨⟨schema, run.asked, run.hasParams⟩, inPath.map (·.name), ?_, ?_⟩
  · rw [List.map_map, List.map_map]
    exact pathParametersShown run.path
  · rw [run.parameters, List.map_append, argumentShown run.rest, run.hasParams]

theorem typescriptShown {names shown : List Node}
    (called : names.map (Language.parameterName .typescript) = shown.map .ok) : shown = names :=
  ((List.map_inj_right fun _ _ => Except.ok.inj).mp called).symm

theorem parameterNamePython {name shown : Node}
    (ok : Language.parameterName .python name = .ok shown) :
    ∃ s, name = .str s ∧ shown = pythonName s := by
  unfold Language.parameterName at ok
  split at ok
  · contradiction
  · cases ok
    exact ⟨_, rfl, rfl⟩
  · contradiction

theorem pythonShown {names shown : List Node}
    (called : names.map (Language.parameterName .python) = shown.map .ok) :
    ∃ texts : List String, names = texts.map .str ∧ shown = texts.map pythonName := by
  induction names generalizing shown with
  | nil => exact ⟨[], rfl, by simpa using called.symm⟩
  | cons name names ih =>
    cases shown with
    | nil => cases called
    | cons first shown =>
      obtain ⟨here, later⟩ := List.cons.inj called
      obtain ⟨s, rfl, rfl⟩ := parameterNamePython here
      obtain ⟨texts, rfl, rfl⟩ := ih later
      exact ⟨s :: texts, rfl, rfl⟩

theorem paramsIsName (language : Language) : language.isName "params".toList = true := by
  cases language <;> decide +kernel

theorem pythonNamed (names : List String) : ∀ n ∈ names.map pythonName,
    ∃ s, n = .str s ∧ Language.python.isName s.toList = true := by
  intro n member
  obtain ⟨s, _, rfl⟩ := List.mem_map.mp member
  exact ⟨_, rfl, by simpa using identifierIsName s.toList⟩

theorem argumentsNamed {o : Operation} {v : OperationView}
    (ok : (operation parts .python owner o).result = .ok v) :
    ∀ p ∈ v.parameters, ∃ s, p.name = .str s ∧ Language.python.isName s.toList = true := by
  obtain ⟨_, inPath, called, named⟩ := operationArguments ok
  obtain ⟨names, _, rfl⟩ := pythonShown called
  intro p member
  have among : p.name ∈ v.parameters.map (·.name) := List.mem_map_of_mem member
  rw [named] at among
  rcases List.mem_append.mp among with among | last
  · exact pythonNamed names p.name among
  · split at last
    · exact ⟨"params", List.mem_singleton.mp last, paramsIsName .python⟩
    · cases last

theorem goTogetherIff {names : List Node} {hasParams : Bool} :
    GoTogether language (names ++ if hasParams then [.str "params"] else []) ↔
      GoTogether language names ∧ (hasParams = true → .str "params" ∉ names) := by
  have own : language.ownArgument ≠ "params" := by cases language <;> decide
  cases hasParams with
  | false => simp
  | true =>
    constructor
    · rintro ⟨named, apart, free⟩
      obtain ⟨unique, _, disjoint⟩ := List.nodup_append.mp apart
      refine ⟨⟨fun n member => named n (List.mem_append_left _ member), unique,
        fun member => free (List.mem_append_left _ member)⟩, fun _ member => ?_⟩
      exact disjoint _ member _ (List.mem_singleton_self _) rfl
    · rintro ⟨⟨named, unique, free⟩, params⟩
      refine ⟨?_, ?_, ?_⟩
      · exact List.forall_mem_append.mpr
          ⟨named, List.forall_mem_singleton.mpr ⟨"params", rfl, paramsIsName language⟩⟩
      · refine List.nodup_append.mpr ⟨unique, List.pairwise_singleton _ _, ?_⟩
        rintro n member _ last rfl
        exact params rfl (List.mem_singleton.mp last ▸ member)
      · intro member
        rcases List.mem_append.mp member with member | last
        · exact free member
        · exact own (Node.str.inj (List.mem_singleton.mp last))

theorem typescriptTogether {names : List Node} (apart : names.Nodup) :
    GoTogether .typescript names ↔ ∀ n ∈ names, ∃ s, n = .str s ∧
      Language.typescript.isName s.toList = true ∧ s ≠ "options" := by
  constructor
  · rintro ⟨named, _, own⟩ n member
    obtain ⟨s, rfl, name⟩ := named n member
    refine ⟨s, rfl, name, ?_⟩
    rintro rfl
    exact own member
  · intro each
    refine ⟨fun n member => ?_, apart, fun member => ?_⟩
    · obtain ⟨s, same, name, _⟩ := each n member
      exact ⟨s, same, name⟩
    · obtain ⟨s, same, _, free⟩ := each _ member
      exact free (Node.str.inj same).symm

theorem pythonMissing {name : String} (names : List String) (own : pythonName name = .str name) :
    .str name ∉ names.map pythonName ↔ ∀ n ∈ names, nameWords n.toList ≠ nameWords name.toList := by
  rw [← own]
  simp [pythonNameSame]

theorem pythonTogether {names : List String} :
    GoTogether .python (names.map pythonName) ↔ (names.map fun n => nameWords n.toList).Nodup ∧
      ∀ n ∈ names, nameWords n.toList ≠ ["self".toList] := by
  have own : nameWords "self".toList = ["self".toList] := by decide
  have missing := pythonMissing names (show pythonName "self" = .str "self" from rfl)
  rw [own] at missing
  constructor
  · rintro ⟨_, apart, free⟩
    exact ⟨(pythonNamesApart names).mp apart, missing.mp free⟩
  · rintro ⟨apart, free⟩
    exact ⟨pythonNamed names, (pythonNamesApart names).mpr apart, missing.mpr free⟩

theorem argumentsGoTogether {o : Operation} {v : OperationView} {declared : List Node}
    (ok : (operation parts language owner o).result = .ok v)
    (path : (o.located parts "path").map (fun p => parts.close p.name) = declared)
    (apart : declared.Nodup) :
    (∃ schema, argumentSchema parts o = .ok schema ∧
      v.hasParams = (present parts schema).isSome) ∧
    (language = .typescript → (GoTogether language (v.parameters.map (·.name)) ↔
      ∀ n ∈ declared, ∃ s, n = .str s ∧ language.isName s.toList = true ∧ s ≠ "options" ∧
        (v.hasParams = true → s ≠ "params"))) ∧
    (language = .python → ∃ names : List String, declared = names.map .str ∧
      (∀ p ∈ v.parameters, ∃ s, p.name = .str s ∧ language.isName s.toList = true) ∧
      (GoTogether language (v.parameters.map (·.name)) ↔
        (names.map fun n => nameWords n.toList).Nodup ∧
        ∀ n ∈ names, nameWords n.toList ≠ ["self".toList] ∧
          (v.hasParams = true → nameWords n.toList ≠ ["params".toList]))) := by
  obtain ⟨rest, inPath, called, named⟩ := operationArguments ok
  rw [path] at called
  refine ⟨rest, ?_, ?_⟩
  · rintro rfl
    rw [named, goTogetherIff, typescriptShown called, typescriptTogether apart]
    constructor
    · rintro ⟨each, free⟩ n member
      obtain ⟨s, rfl, name, own⟩ := each n member
      refine ⟨s, rfl, name, own, fun some same => free some (same ▸ member)⟩
    · intro each
      refine ⟨fun n member => ?_, fun some member => ?_⟩
      · obtain ⟨s, same, name, own, _⟩ := each n member
        exact ⟨s, same, name, own⟩
      · obtain ⟨s, same, _, _, free⟩ := each _ member
        exact free some (Node.str.inj same).symm
  · rintro rfl
    obtain ⟨names, rfl, rfl⟩ := pythonShown called
    have own : nameWords "params".toList = ["params".toList] := by decide +kernel
    have missing := pythonMissing names (show pythonName "params" = .str "params" from rfl)
    rw [own] at missing
    refine ⟨names, rfl, argumentsNamed ok, ?_⟩
    rw [named, goTogetherIff, pythonTogether, missing]
    constructor
    · rintro ⟨⟨words, self⟩, free⟩
      exact ⟨words, fun n member => ⟨self n member, fun some => free some n member⟩⟩
    · rintro ⟨words, each⟩
      exact ⟨⟨words, fun n member => (each n member).1⟩,
        fun some n member => (each n member).2 some⟩

def searching (inPath inQuery : List String) : Operation :=
  let located (location name : String) : Parameter :=
    ⟨.str name, .str location, true, Node.object [("type", .str "string")], .null⟩
  { id := .str "search", path := "/search", method := "get", summary := .str "Search"
    description := .null, tags := []
    parameters := inPath.map (located "path") ++ inQuery.map (located "query"), request := none
    responses := [⟨"200", ⟨[⟨.str "application/json", Node.object [("type", .str "string")]⟩]⟩,
      .null⟩] }

theorem searchTogether :
    (["pet-id", "userId"].map Node.str).Nodup ∧
    (∃ v, (operation [] .python (.str "Pet") (searching ["pet-id", "userId"] ["name"])).result =
      .ok v ∧ v.parameters.map (·.name) = [.str "pet_id", .str "user_id", .str "params"] ∧
      GoTogether .python (v.parameters.map (·.name))) ∧
    (["petId"].map Node.str).Nodup ∧
    ∃ v, (operation [] .typescript (.str "Pet") (searching ["petId"] ["name"])).result = .ok v ∧
      v.parameters.map (·.name) = [.str "petId", .str "params"] ∧
      GoTogether .typescript (v.parameters.map (·.name)) := by
  have apart : (["pet-id", "userId"].map Node.str).Nodup := by simp
  have alone : (["petId"].map Node.str).Nodup := by simp
  refine ⟨apart, ?_, alone, ?_⟩
  · have shown : ∃ v, (operation [] .python (.str "Pet")
        (searching ["pet-id", "userId"] ["name"])).result = .ok v ∧
        v.parameters.map (·.name) = [.str "pet_id", .str "user_id", .str "params"] := ⟨_, rfl, rfl⟩
    have path : ((searching ["pet-id", "userId"] ["name"]).located [] "path").map
        (fun p => Parts.close [] p.name) = ["pet-id", "userId"].map Node.str := rfl
    obtain ⟨v, ok, named⟩ := shown
    obtain ⟨_, _, python⟩ := argumentsGoTogether ok path apart
    obtain ⟨names, same, _, together⟩ := python rfl
    cases (List.map_inj_right fun _ _ => Node.str.inj).mp same
    have words : ∀ n ∈ ["pet-id", "userId"], nameWords n.toList ≠ ["self".toList] ∧
        nameWords n.toList ≠ ["params".toList] := by decide +kernel
    exact ⟨v, ok, named, together.mpr ⟨by decide +kernel,
      fun n member => ⟨(words n member).1, fun _ => (words n member).2⟩⟩⟩
  · have shown : ∃ v, (operation [] .typescript (.str "Pet")
        (searching ["petId"] ["name"])).result = .ok v ∧
        v.parameters.map (·.name) = [.str "petId", .str "params"] := ⟨_, rfl, rfl⟩
    have path : ((searching ["petId"] ["name"]).located [] "path").map
        (fun p => Parts.close [] p.name) = ["petId"].map Node.str := rfl
    obtain ⟨v, ok, named⟩ := shown
    obtain ⟨_, typescript, _⟩ := argumentsGoTogether ok path alone
    have name : Language.typescript.isName "petId".toList = true := by decide +kernel
    refine ⟨v, ok, named, (typescript rfl).mpr (List.forall_mem_singleton.mpr ?_)⟩
    exact ⟨"petId", rfl, name, by decide, fun _ => by decide⟩

theorem searchClashes :
    (["petId", "pet_id"].map Node.str).Nodup ∧
    (∃ v, (operation [] .python (.str "Pet") (searching ["petId", "pet_id"] [])).result = .ok v ∧
      v.parameters.map (·.name) = [.str "pet_id", .str "pet_id"]) ∧
    (∃ v, (operation [] .python (.str "Pet") (searching ["self"] [])).result = .ok v ∧
      v.parameters.map (·.name) = [.str Language.python.ownArgument]) ∧
    (∃ v, (operation [] .typescript (.str "Pet") (searching ["pet-id"] [])).result = .ok v ∧
      v.parameters.map (·.name) = [.str "pet-id"] ∧
      Language.typescript.isName "pet-id".toList = false) ∧
    (∃ v, (operation [] .typescript (.str "Pet") (searching ["params"] ["name"])).result = .ok v ∧
      v.parameters.map (·.name) = [.str "params", .str "params"]) ∧
    ∃ v, (operation [] .typescript (.str "Pet") (searching ["options"] [])).result = .ok v ∧
      v.parameters.map (·.name) = [.str Language.typescript.ownArgument] :=
  ⟨by simp, ⟨_, rfl, rfl⟩, ⟨_, rfl, rfl⟩, ⟨_, rfl, rfl, by decide +kernel⟩, ⟨_, rfl, rfl⟩,
    _, rfl, rfl⟩

end View
end ClientGen
