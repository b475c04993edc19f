import ClientGen.Proofs.Compile.Named
import ClientGen.Proofs.View.Calls
import ClientGen.Proofs.View.MethodNames

/-! No reference dangles. Under its arrays, every type that the view of a resource refers to is a
spelling that the dialect has of its own or the name of a type of the view; and a view that refers
to the imported type says so. -/
namespace ClientGen

namespace Parts

theorem contiguousIff {a b : List Char} : isContiguous a b = true ↔ a <:+: b := by
  induction b with
  | nil => simp [isContiguous]
  | cons c rest ih =>
    rw [isContiguous, Bool.or_eq_true, List.isPrefixOf_iff_prefix, ih, List.infix_cons_iff]

end Parts

def Dialect.primitives (d : Dialect) : List String := [d.text, d.number, d.boolean]

theorem Dialect.spellNamed (d : Dialect) {names : List String} {t : TypeRef}
    (ok : t.NamedIn names) : ∃ n base, d.spell t = d.arrayOf^[n] base ∧
      (base ∈ d.primitives ∨ base = d.unknown ∨ base = d.imported ∨ base ∈ names) := by
  refine ⟨t.nesting, d.spell t.base, d.spellBase t, ?_⟩
  rw [← TypeRef.baseNamedIn] at ok
  induction t with
  | array item ih => exact ih ok
  | named name => exact .inr (.inr (.inr ok))
  | unknown => exact .inr (.inl rfl)
  | imported => exact .inr (.inr (.inl rfl))
  | _ => exact .inl (by simp [primitives, TypeRef.base, spell])

theorem Dialect.imports (d : Dialect) (n : Nat) :
    d.imported.toList <:+: (d.arrayOf^[n] d.imported).toList := by
  induction n with
  | zero => exact List.infix_refl _
  | succ n ih =>
    rw [Function.iterate_succ_apply']
    refine ih.trans ⟨d.arrayOpen.toList, d.arrayClose.toList, ?_⟩
    simp [Dialect.arrayOf]

namespace Compile

def Shows (compile : List Node → Node → Compiled TypeRef) (c : List Node) (s : Node)
    (t : TypeRef) : Prop :=
  ∃ u, Ends compile c s u ∧ (t = u ∨ ∃ d ∈ (compile c s).given, ∃ f ∈ d.fields, t = f.type)

theorem showsNamed {parts : Parts} {owner : Node} {fuel : Nat} {c : List Node} {s : Node}
    {t : TypeRef} (seen : Shows (compileAt parts owner fuel) c s t) :
    t.NamedIn (givenNames (compileAt parts owner fuel c s).given) := by
  obtain ⟨u, ends, rfl | ⟨d, given, f, own, rfl⟩⟩ := seen
  · exact (compileAtNamed ends).1
  · exact (compileAtNamed ends).2 d given f own

end Compile

namespace View

variable {parts : Parts} {language : Language} {strict : Bool} {r : Resource}

theorem fieldType {f : Field String} {v : FieldView} (ok : field language f = .ok v) :
    f.type.toList <:+: v.type.toList := by
  unfold field at ok
  split at ok
  · cases ok
    cases language with
    | typescript =>
      simp only [typescriptField]
      split <;> exact List.infix_refl _
    | python =>
      simp only [pythonField]
      split
      · exact ⟨[], " | None".toList, by simp⟩
      · exact List.infix_refl _
  · contradiction

theorem fieldsTypes {fs : List (Field String)} {vs : List FieldView}
    (ok : fields language fs = .ok vs) {f : Field String} (member : f ∈ fs) :
    ∃ v ∈ vs, f.type.toList <:+: v.type.toList := by
  induction fs generalizing vs with
  | nil => cases member
  | cons g rest ih =>
    obtain ⟨v, first, ok⟩ := Fault.bindOk ok
    obtain ⟨vs', others, ok⟩ := Fault.bindOk ok
    cases ok
    rcases List.mem_cons.mp member with rfl | inside
    · exact ⟨v, List.mem_cons_self, fieldType first⟩
    · obtain ⟨w, found, shown⟩ := ih others inside
      exact ⟨w, List.mem_cons_of_mem _ found, shown⟩

theorem requiredFirstMember {fs : List FieldView} {v : FieldView} :
    v ∈ requiredFirst fs ↔ v ∈ fs := by
  cases optional : v.isOptional <;> simp [requiredFirst, sortedByParts, optional]

theorem typeShown {d : Spelled} {t : TypeView} (ok : type language d = .ok t) :
    t.name = d.name ∧ ∀ f ∈ d.fields, ∃ v ∈ t.fields, f.type.toList <:+: v.type.toList := by
  obtain ⟨vs, shown, ok⟩ := Fault.bindOk ok
  cases ok
  refine ⟨rfl, fun f member => ?_⟩
  obtain ⟨v, found, inside⟩ := fieldsTypes shown member
  cases language with
  | typescript => exact ⟨v, found, inside⟩
  | python => exact ⟨v, requiredFirstMember.mpr found, inside⟩

theorem typesShown {ds : List Spelled} {ts : List TypeView} (ok : types language ds = .ok ts) :
    ts.map (·.name) = ds.map (·.name) ∧ ∀ d ∈ ds, ∀ f ∈ d.fields,
      ∃ t ∈ ts, ∃ v ∈ t.fields, f.type.toList <:+: v.type.toList := by
  induction ds generalizing ts with
  | nil =>
    cases ok
    exact ⟨rfl, by simp⟩
  | cons d rest ih =>
    obtain ⟨t, first, ok⟩ := Fault.bindOk ok
    obtain ⟨ts', others, ok⟩ := Fault.bindOk ok
    cases ok
    obtain ⟨name, here⟩ := typeShown first
    obtain ⟨names, later⟩ := ih others
    refine ⟨by simp [name, names], fun e member f shown => ?_⟩
    rcases List.mem_cons.mp member with rfl | inside
    · exact ⟨t, List.mem_cons_self, here f shown⟩
    · obtain ⟨u, found, rest⟩ := later e inside f shown
      exact ⟨u, List.mem_cons_of_mem _ found, rest⟩

theorem renamedTypes {os os' : List OperationView} (renamed : Renamed os os') :
    os'.flatMap OperationView.types = os.flatMap OperationView.types := by
  induction renamed with
  | nil => rfl
  | cons same _ ih =>
    rw [List.flatMap_cons, List.flatMap_cons, ih, same]
    rfl

theorem withUniqueNamesTypes (os : List OperationView) :
    (withUniqueNames os).flatMap OperationView.types = os.flatMap OperationView.types :=
  renamedTypes (withUniqueNamesRenamed os).1

def referred (registry : Registry) (os : List OperationView) : List String :=
  registry.types.flatMap (fun d => d.fields.map (·.type)) ++ os.flatMap OperationView.types

theorem referredSource {os : List OperationView}
    (compiled : (compiledOperations parts language r).result = .ok os) {reference : String}
    (member : reference ∈ referred (registry parts language strict r) os) :
    ∃ c s t, Starts parts r c s ∧ reference = language.dialect.spell t ∧
      Compile.Shows (Compile.compileAt parts r.name (parts.depth s)) c s t := by
  have covers := compiledOperationsCover compiled
  rcases List.mem_append.mp member with inType | inOperation
  · obtain ⟨d, final, shown⟩ := List.mem_flatMap.mp inType
    obtain ⟨f, inside, rfl⟩ := List.mem_map.mp shown
    rcases Registry.typesAmong final with handed | before
    · obtain ⟨d, given, rfl⟩ := List.mem_map.mp handed
      obtain ⟨f, own, rfl⟩ := List.mem_map.mp inside
      obtain ⟨c, s, start, given⟩ := covers.source d given
      obtain ⟨t, ends, _⟩ := covers.ends c s start
      exact ⟨c, s, f.type, start, rfl, t, ends, .inr ⟨d, given, f, own, rfl⟩⟩
    · simp [Registry.empty] at before
  · obtain ⟨c, s, t, start, ends, same⟩ := covers.types reference inOperation
    exact ⟨c, s, t, start, same, t, ends, .inl rfl⟩

theorem shownNamed {os : List OperationView}
    (added : ((Registry.empty strict).addAll (handedOut parts language r)).2.result = .ok ())
    (compiled : (compiledOperations parts language r).result = .ok os) {c : List Node} {s : Node}
    (start : Starts parts r c s) {t : TypeRef}
    (seen : Compile.Shows (Compile.compileAt parts r.name (parts.depth s)) c s t) :
    t.NamedIn (registry parts language strict r).names := by
  obtain ⟨_, _, handed⟩ := (compiledOperationsCover compiled).ends c s start
  refine (Compile.showsNamed seen).mono fun name member => ?_
  obtain ⟨d, given, rfl⟩ := List.mem_map.mp member
  exact (Registry.namesAddedAll added).1 _ (List.mem_map_of_mem (handed given))

theorem referredNamed {os : List OperationView}
    (added : ((Registry.empty strict).addAll (handedOut parts language r)).2.result = .ok ())
    (compiled : (compiledOperations parts language r).result = .ok os) {reference : String}
    (member : reference ∈ referred (registry parts language strict r) os) :
    ∃ t : TypeRef, reference = language.dialect.spell t ∧
      t.NamedIn (registry parts language strict r).names := by
  obtain ⟨c, s, t, start, same, seen⟩ := referredSource compiled member
  exact ⟨t, same, shownNamed added compiled start seen⟩

theorem referredCompiled {className : String} {view : ResourceView}
    (run : Run parts language strict r className view) :
    ∃ os, (compiledOperations parts language r).result = .ok os ∧
      referred (registry parts language strict r) view.operations =
        referred (registry parts language strict r) os := by
  obtain ⟨os, compiled, final⟩ := run.operations
  exact ⟨os, compiled, by rw [referred, final, withUniqueNamesTypes, referred]⟩

theorem referredShown {className : String} {view : ResourceView}
    (run : Run parts language strict r className view) {reference : String}
    (member : reference ∈ referred (registry parts language strict r) view.operations) :
    ∃ shown ∈ references view.types view.operations, reference.toList <:+: shown.toList := by
  rcases List.mem_append.mp member with inType | inOperation
  · obtain ⟨d, final, shown⟩ := List.mem_flatMap.mp inType
    obtain ⟨f, inside, rfl⟩ := List.mem_map.mp shown
    obtain ⟨t, found, v, own, part⟩ := (typesShown run.types).2 d final f inside
    refine ⟨v.type, List.mem_append_left _ ?_, part⟩
    exact List.mem_flatMap.mpr ⟨t, found, List.mem_map_of_mem own⟩
  · exact ⟨reference, List.mem_append_right _ inOperation, List.infix_refl _⟩

theorem referencesDenote {className : String} {view : ResourceView}
    (ok : (resource parts language strict r className).result = .ok view) {reference : String}
    (member : reference ∈ referred (registry parts language strict r) view.operations) :
    (∃ n base, reference = language.dialect.arrayOf^[n] base ∧
      (base ∈ language.dialect.primitives ∨ base = language.dialect.unknown ∨
        base = language.dialect.imported ∨ base ∈ view.types.map (·.name))) ∧
    ∀ n, reference = language.dialect.arrayOf^[n] language.dialect.imported →
      view.usesImported = true := by
  have run := resourceRuns ok
  obtain ⟨os, compiled, final⟩ := run.operations
  constructor
  · have same : referred (registry parts language strict r) view.operations =
        referred (registry parts language strict r) os := by
      rw [referred, final, withUniqueNamesTypes, referred]
    obtain ⟨t, rfl, named⟩ := referredNamed run.added compiled (same ▸ member)
    rw [(typesShown run.types).1]
    exact language.dialect.spellNamed named
  · rintro n rfl
    obtain ⟨shown, found, part⟩ := referredShown run member
    rw [run.imported, List.any_eq_true]
    exact ⟨shown, found, Parts.contiguousIff.mpr ((language.dialect.imports n).trans part)⟩

def stock : Node := Node.object [("type", .str "array"), ("items",
  Node.object [("type", .str "array"), ("items",
    Node.object [("type", .str "object"), ("x-openapi-name", .str "item")])])]

def shelf : Resource :=
  ⟨.str "shelf", Node.object [("type", .str "object"), ("properties", Node.object [("stock", stock)])],
    [{ id := .str "list_stock", path := "/stock", method := "get", summary := .str "List stock",
       description := .null, tags := [], parameters := [], request := none,
       responses := [⟨"default", ⟨[⟨.str "application/json", stock⟩]⟩, .null⟩] }]⟩

theorem shelfEnds :
    ∃ view, (resource [] .typescript false shelf "ShelfContext").result = .ok view :=
  ⟨_, rfl⟩

theorem shelfUsesImported :
    ∃ view, (resource [] .typescript false shelf "ShelfContext").result = .ok view ∧
      "Array<Array<ImportedType>>" ∈ referred (registry [] .typescript false shelf) view.operations ∧
      view.usesImported = true := by
  obtain ⟨view, ok⟩ := shelfEnds
  have member : "Array<Array<ImportedType>>" ∈
      referred (registry [] .typescript false shelf) view.operations :=
    List.mem_append_left _ (by decide +kernel)
  exact ⟨view, ok, member, (referencesDenote ok member).2 2 rfl⟩

end View
end ClientGen
