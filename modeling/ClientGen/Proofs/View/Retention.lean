import ClientGen.Proofs.Grouping.Formed
import ClientGen.Proofs.View.Calls

/-! No type of a resource is lost. Where no collision was refused or reported, every record that the
resource compiles, at whatever depth, stands in the registry in the end with a field for each of
its properties. -/
namespace ClientGen

theorem Content.defaultMember {c : Content} {m : MediaType} (found : c.default? = some m) :
    m ∈ c.mediaTypes := by
  unfold default? at found
  split at found
  · rename_i preferred
    cases found
    exact List.mem_of_find?_eq_some preferred
  · exact List.mem_of_mem_head? found

theorem Content.defaultFormed {c : Content} {m : MediaType} (ok : c.wellFormed = true)
    (found : c.default? = some m) : m.schema.wellFormed = true := by
  simp only [wellFormed, List.all_eq_true] at ok
  exact ok m (defaultMember found)

namespace View

variable {parts : Parts} {language : Language} {strict : Bool} {r : Resource}

theorem argumentSchemaFormed {o : Operation} (ok : o.wellFormed = true) {schema : Node}
    (asked : argumentSchema parts o = .ok (some schema)) : schema.wellFormed = true := by
  unfold argumentSchema at asked
  split at asked
  · exact Operation.querySchemaFormed ok asked
  · obtain ⟨media, found, rfl⟩ := Option.map_eq_some_iff.mp (Except.ok.inj asked)
    obtain ⟨request, given, preferred⟩ := Option.bind_eq_some_iff.mp found
    simp only [Operation.wellFormed, Bool.and_eq_true] at ok
    have content := ok.1.2
    rw [given] at content
    exact Content.defaultFormed content preferred

theorem operationCallFormed {o : Operation} (ok : o.wellFormed = true) {chain : List Node}
    {schema : Node} (call : OperationCalls parts o chain schema) : schema.wellFormed = true := by
  cases call with
  | path _ member => exact (Operation.parameterFormed ok (List.mem_filter.mp member).1).2
  | argument _ asks there =>
    obtain ⟨rfl, _⟩ := Option.filter_eq_some_iff.mp there
    exact argumentSchemaFormed ok asks
  | @response name response media named first preferred =>
    simp only [Operation.wellFormed, Bool.and_eq_true, List.all_eq_true] at ok
    have member : response ∈ o.responses := by
      unfold Operation.defaultResponse at first
      split at first
      · rename_i declared
        cases first
        simp [declared]
      · contradiction
    unfold Content.requireDefault at preferred
    split at preferred
    · rename_i found
      cases preferred
      exact Content.defaultFormed (ok.2 response member) found
    · contradiction

theorem startFormed (formed : r.wellFormed = true) {chain : List Node} {schema : Node}
    (start : Starts parts r chain schema) : schema.wellFormed = true := by
  simp only [Resource.wellFormed, Bool.and_eq_true, List.all_eq_true] at formed
  cases start with
  | own => exact formed.1
  | operation member call => exact operationCallFormed (formed.2 _ member) call

theorem defineFormed {d : Definition TypeRef} (formed : d.WellFormed) (dialect : Dialect) :
    (dialect.define d).WellFormed := by
  intro f member
  obtain ⟨g, inside, rfl⟩ := List.mem_map.mp member
  exact formed g inside

theorem handedOutFormed (rows : parts.wellFormed = true) (formed : r.wellFormed = true)
    {os : List OperationView} (ok : (compiledOperations parts language r).result = .ok os) :
    ∀ d ∈ handedOut parts language r, d.WellFormed := by
  have covers := compiledOperationsCover ok
  intro d member
  obtain ⟨d, handed, rfl⟩ := List.mem_map.mp member
  obtain ⟨c, s, start, inside⟩ := covers.source d handed
  exact defineFormed (Compile.compileAtFormed rows (startFormed formed start) d inside) _

-- Every record that a resource compiles, whether it shows its own schema or one of an operation.
theorem recordsKept {className : String} {view : ResourceView} (rows : parts.wellFormed = true)
    (formed : r.wellFormed = true)
    (ok : (resource parts language strict r className).result = .ok view)
    (quiet : strict = true ∨
      ∀ name, Event.redefined name ∉ (resource parts language strict r className).given)
    {first chain : List Node} {start schema : Node} {entries : Entries}
    (starts : Starts parts r first start)
    (reach : Compile.Reaches parts r.name first start chain schema)
    (shape : parts.shape schema = .ok .object) (held : parts.entries schema = .ok entries)
    (own : Compile.isForeign parts r.name entries = false) :
    ∃ title required properties name fs,
      Compile.titleName parts entries = .ok title ∧
      Compile.requiredKeys parts entries = .ok required ∧
      Compile.properties parts entries = .ok properties ∧
      Compile.Returns parts r.name chain schema (.named name) ∧
      List.Forall₂ (Compile.FieldOf parts (Compile.Returns parts r.name)
        (Compile.innerChain title chain) required) properties fs ∧
      (registry parts language strict r).Holds (language.dialect.define ⟨name, fs⟩) := by
  have run := resourceRuns ok
  obtain ⟨os, compiled, _⟩ := run.operations
  obtain ⟨t, ends, handed⟩ := (compiledOperationsCover compiled).ends first start starts
  obtain ⟨fuel, t', last, inside⟩ := Compile.reachEnds reach ends
  obtain ⟨title, required, properties, name, fs, titled, requires, holds, rfl, fields, there⟩ :=
    Compile.objectEnds shape held own last
  refine ⟨title, required, properties, name, fs, titled, requires, holds, ⟨fuel, last⟩, fields, ?_⟩
  have formed := handedOutFormed rows formed compiled
  have silent : (Registry.empty strict).strict = true ∨ ∀ name, Event.redefined name ∉
      ((Registry.empty strict).addAll (handedOut parts language r)).2.given := by
    refine quiet.imp_right fun silent name member => silent name ?_
    rw [run.given]
    exact List.mem_append_left _ member
  have all := Registry.addAllHolds formed (by simp [Registry.empty]) run.added silent
  exact all.1 _ (List.mem_map_of_mem (handed (inside there)))

def point : Node := Node.object [("title", .str "Point"), ("type", .str "object"),
  ("properties", Node.object [("x", Node.object [("type", .str "number")])]),
  ("required", .list [.str "x"])]

def segment : Resource :=
  ⟨.str "segment", Node.object [("type", .str "object"),
    ("properties", Node.object [("from", point), ("to", point)])], []⟩

theorem segmentEnds :
    ∃ view, (resource [] .python true segment "SegmentContext").result = .ok view :=
  ⟨_, rfl⟩

theorem segmentKeepsPoint : ∃ fs,
    List.Forall₂ (Compile.FieldOf [] (Compile.Returns [] segment.name) [.str "Point"] [.str "x"])
      [(.str "x", Node.object [("type", .str "number")])] fs ∧
    (registry [] .python true segment).Holds (Language.python.dialect.define ⟨"Point", fs⟩) := by
  obtain ⟨view, ok⟩ := segmentEnds
  have last : Compile.Calls [] segment.name [segment.name] segment.schema
      [.str "segment", .str "to"] point := by
    refine @Compile.Calls.property _ _ _ _ _ none _ _ _ rfl rfl rfl rfl rfl ?_
    exact List.mem_cons_of_mem _ List.mem_cons_self
  obtain ⟨title, required, properties, name, fs, titled, requires, holds, returns, fields, kept⟩ :=
    recordsKept (by decide +kernel) (by decide +kernel) ok (.inl rfl) .own
      (.inside last (.here _ _)) rfl rfl rfl
  have point : name = "Point" :=
    TypeRef.named.inj (Compile.returnsUnique returns ⟨2, by rfl⟩)
  cases titled
  cases requires
  cases holds
  exact ⟨fs, fields, point ▸ kept⟩

end View
end ClientGen
