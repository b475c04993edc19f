import ClientGen.Proofs.Compile.Enough
import ClientGen.Proofs.Node.Pairs
import ClientGen.Proofs.Registry.Replaying
import ClientGen.Proofs.View.Run

/-! The record that a GET operation has for its query. It has one field for every name, in the order
in which the names are declared first; its type is that of the last declaration, and it may be left
out just if no declaration requires it. The argument may be left out just if every field may. -/
namespace ClientGen

namespace View

def textOf (parts : Parts) (n : Node) : String := ((parts.view n).text?).getD ""

def queryEntries (parts : Parts) (query : List Parameter) : List (String × Node) :=
  [("type", .str "object"),
    ("properties", .map (Node.fromPairs
      (query.map fun p => (.str (textOf parts p.name), p.schema)))),
    ("required", .list ((query.filter (·.required)).map (·.name)))]

variable {parts : Parts} {query : List Parameter} {names : List String}

theorem nameWritten (written : query.map (fun p => parts.view p.name) = names.map .str)
    {p : Parameter} (member : p ∈ query) : parts.view p.name = .str (textOf parts p.name) := by
  have among : parts.view p.name ∈ names.map Node.str := by
    rw [← written]
    exact List.mem_map_of_mem (f := fun p => parts.view p.name) member
  obtain ⟨s, _, same⟩ := List.mem_map.mp among
  rw [textOf, ← same]
  rfl

theorem namesWritten (written : query.map (fun p => parts.view p.name) = names.map .str) :
    query.map (fun p => textOf parts p.name) = names := by
  have texts := congrArg (List.map fun n : Node => n.text?.getD "") written
  rwa [List.map_map, List.map_map, show _ ∘ Node.str = id from rfl, List.map_id] at texts

theorem keysRead (written : query.map (fun p => parts.view p.name) = names.map .str) :
    readEach (fun p => do return (← Operation.nameKey parts p.name, p.schema)) query =
      .ok (query.map fun p => (.str (textOf parts p.name), p.schema)) := by
  induction query generalizing names with
  | nil => rfl
  | cons p rest ih =>
    cases names with
    | nil => cases written
    | cons name names =>
      have here := nameWritten written List.mem_cons_self
      have key : Operation.nameKey parts p.name = .ok (.str (textOf parts p.name)) := by
        rw [Operation.nameKey, here]
        rfl
      rw [readEach, key, ih (List.cons.inj written).2]
      rfl

theorem querySchemaShown {o : Operation}
    (written : (o.located parts "query").map (fun p => parts.view p.name) = names.map .str)
    (some : names ≠ []) :
    o.querySchema parts =
      .ok (.some (Node.object (queryEntries parts (o.located parts "query")))) := by
  unfold Operation.querySchema
  generalize o.located parts "query" = query at written
  cases query with
  | nil =>
    cases names with
    | nil => contradiction
    | cons => cases written
  | cons p rest =>
    simp only [keysRead written]
    rfl

section Record

variable (parts query)

abbrev queryObject : Entries := (queryEntries parts query).map fun f => (.str f.1, f.2)

theorem queryShape : parts.shape (.map (queryObject parts query)) = .ok .object := by
  rw [Parts.shapeShown rfl]
  rfl

theorem queryOwn (owner : Node) :
    Compile.isForeign parts owner (queryObject parts query) = false := rfl

theorem queryUntitled : Compile.titleName parts (queryObject parts query) = .ok none := rfl

theorem queryProperties : Compile.properties parts (queryObject parts query) =
    .ok (Node.fromPairs (query.map fun p => (.str (textOf parts p.name), p.schema))) := by
  have whole (es : Entries) : parts.entries (parts.orElse (.map es) (.map [])) = .ok es := by
    cases es <;> rfl
  exact whole _

def requiredNames : List Node := (query.filter (·.required)).map fun p => parts.view p.name

theorem requiredRead (written : query.map (fun p => parts.view p.name) = names.map .str) :
    Compile.requiredKeys parts (queryObject parts query) = .ok (requiredNames parts query) := by
  have given : Entries.at? "required" (queryObject parts query) =
    some (.list ((query.filter (·.required)).map (·.name))) := rfl
  have usable : (requiredNames parts query).all Node.hashable = true := by
    refine List.all_eq_true.mpr fun n member => ?_
    obtain ⟨p, inside, rfl⟩ := List.mem_map.mp member
    rw [nameWritten written (List.mem_of_mem_filter inside)]
    rfl
  unfold Compile.requiredKeys requiredNames at *
  rw [given]
  generalize query.filter (·.required) = required at usable
  cases required with
  | nil => rfl
  | cons p rest =>
    have keys : ((p :: rest).map (·.name)).map parts.view =
        (p :: rest).map fun p => parts.view p.name :=
      List.map_map
    change ite ((((p :: rest).map (·.name)).map parts.view).all Node.hashable = true) _ _ = _
    rw [keys, if_pos usable]
    rfl

end Record

theorem throughBoth {α β γ : Type} {R : α → β → Prop} {S : β → γ → Prop} {T : α → γ → Prop}
    (each : ∀ a b c, R a b → S b c → T a c) {as : List α} {bs : List β} {cs : List γ}
    (left : List.Forall₂ R as bs) (right : List.Forall₂ S bs cs) : List.Forall₂ T as cs := by
  induction left generalizing cs with
  | nil =>
    cases right
    exact .nil
  | cons here _ ih =>
    cases right with
    | cons there later => exact .cons (each _ _ _ here there) (ih later)

variable {language : Language} {owner : Node} {o : Operation} {called : String}

def declared (parts : Parts) (o : Operation) (n : String) : List Parameter :=
  (o.located parts "query").filter fun p => parts.isText p.name n

structure QueryField (parts : Parts) (language : Language) (owner : Node) (o : Operation)
    (called n : String) (f : Field String) : Prop where
  name : f.name = .str n
  type : ∃ p t, (declared parts o n).getLast? = some p ∧
    (parts.compile owner [.str called, .str "Params", .str n] p.schema).result = .ok t ∧
    f.type = language.dialect.spell t
  isOptional : f.isOptional = true ↔ ∀ p ∈ declared parts o n, p.required = false

theorem isTextIff {n : Node} {s : String} : parts.isText n s = true ↔ parts.view n = .str s := by
  unfold Parts.isText
  split
  · rename_i t shown
    rw [beq_iff_eq, shown, Node.str.injEq]
  · rename_i other
    exact iff_of_false Bool.false_ne_true (other s)

theorem declaredRead
    (written : (o.located parts "query").map (fun p => parts.view p.name) = names.map .str)
    (n : String) :
    (o.located parts "query").filter (fun p => textOf parts p.name == n) = declared parts o n := by
  refine List.filter_congr fun p member => ?_
  rw [Bool.eq_iff_iff, isTextIff, nameWritten written member, beq_iff_eq, Node.str.injEq]

theorem noneRequired (n : String) :
    (!(requiredNames parts (o.located parts "query")).any fun k => (Node.str n).same k) = true ↔
      ∀ p ∈ declared parts o n, p.required = false := by
  rw [Bool.not_eq_true', List.any_eq_false]
  constructor
  · intro free p member
    obtain ⟨inside, own⟩ := List.mem_filter.mp member
    refine Bool.eq_false_iff.mpr fun required => free (parts.view p.name) ?_ ?_
    · exact List.mem_map_of_mem (f := fun p => parts.view p.name)
        (List.mem_filter.mpr ⟨inside, required⟩)
    · exact Node.sameTextIff.mpr (isTextIff.mp own)
  · intro each k member met
    obtain ⟨p, inside, rfl⟩ := List.mem_map.mp member
    obtain ⟨inside, required⟩ := List.mem_filter.mp inside
    have own : parts.isText p.name n = true := isTextIff.mpr (Node.sameTextIff.mp met)
    rw [each p (List.mem_filter.mpr ⟨inside, own⟩)] at required
    contradiction

theorem queryField {compile : List Node → Node → Compile.Compiled TypeRef}
    (settled : ∀ c s t, Compile.Ends compile c s t → (parts.compile owner c s).result = .ok t)
    (written : (o.located parts "query").map (fun p => parts.view p.name) = names.map .str)
    {n : String} {e : Node × Node} {f : Field TypeRef}
    (held : Node.Holding (Node.Last (fun p => textOf parts p.name) Parameter.schema
      (o.located parts "query")) n e)
    (field : Compile.FieldOf parts (Compile.Ends compile) [.str called, .str "Params"]
      (requiredNames parts (o.located parts "query")) e f) :
    QueryField parts language owner o called n (f.map language.dialect.spell) := by
  obtain ⟨k, v⟩ := e
  obtain ⟨rfl, p, last, rfl⟩ := held
  rw [declaredRead written] at last
  refine ⟨field.name, ⟨p, f.type, last, settled _ _ _ field.type, rfl⟩, ?_⟩
  exact field.isOptional ▸ noneRequired n

theorem compileSettles {fuel : Nat} {c : List Node} {s : Node} {t : TypeRef}
    (ends : Compile.Ends (Compile.compileAt parts owner fuel) c s t) :
    (parts.compile owner c s).result = .ok t := by
  have settles : (Compile.compileAt parts owner fuel c s).Settles := by
    rw [Trail.Settles, show _ = _ from ends]
    intro endless
    cases endless
  rw [Compile.compileSettled settles]
  exact ends

def paramsName (called : String) : String := Compile.formatName (called ++ "Params").toList

theorem paramsLetters {letters : List Char}
    (named : Compile.ownName parts none [.str called, .str "Params"] = .ok letters) :
    letters = (called ++ "Params").toList := by
  have text : Compile.ownName parts none [.str called, .str "Params"] =
      .ok (called.toList ++ ("Params".toList ++ [])) := rfl
  rw [String.toList_append, ← List.append_nil "Params".toList]
  exact (Except.ok.inj (text.symm.trans named)).symm

theorem queryCompiled (language : Language) {schema : Node} {t : TypeRef}
    (written : (o.located parts "query").map (fun p => parts.view p.name) = names.map .str)
    (shown : schema = Node.object (queryEntries parts (o.located parts "query")))
    (ok : (parts.compile owner [.str called, .str "Params"] schema).result = .ok t) :
    t = .named (paramsName called) ∧ ∃ inner fs,
      (parts.compile owner [.str called, .str "Params"] schema).given =
        inner ++ [⟨paramsName called, fs⟩] ∧
      List.Forall₂ (fun n f => QueryField parts language owner o called n
        (Field.map language.dialect.spell f)) names.eraseDups fs := by
  subst shown
  obtain ⟨less, _, ended⟩ := Compile.compileAtEnds ok
  obtain ⟨result, given⟩ :=
    Compile.endedRecord (queryShape parts _) (Parts.entriesShown rfl) ended
  obtain ⟨run⟩ := Compile.recordEnds (queryOwn parts _ owner) result
  obtain ⟨title, letters, required, properties, fs, titled, named, requires, holds, fields, rfl,
    made⟩ := run
  cases (queryUntitled parts _).symm.trans titled
  cases (requiredRead parts _ written).symm.trans requires
  cases (queryProperties parts _).symm.trans holds
  cases paramsLetters named
  refine ⟨rfl, _, fs, given.trans made, ?_⟩
  have table := (Node.pairsHold (fun p => textOf parts p.name) Parameter.schema
    (o.located parts "query")).2
  rw [namesWritten written] at table
  refine throughBoth (fun n e f held field => ?_) table (Compile.fieldsEnd fields)
  exact queryField (fun _ _ _ => compileSettles) written held field

def untilParams (parts : Parts) (language : Language) (owner : Node) (o : Operation)
    (called : String) (schema : Node) : List (Definition TypeRef) :=
  (pathParameters parts language owner called (o.located parts "path")).given ++
    (parts.compile owner [.str called, .str "Params"] schema).given

def afterParams (parts : Parts) (language : Language) (owner : Node) (o : Operation)
    (called : String) (schema : Node) (r : Registry) : Registry × Report Unit :=
  r.addAll ((untilParams parts language owner o called schema).map language.dialect.define)

def params (type : String) (isOptional : Bool) : ParameterView :=
  { name := .str "params", type := type, description := .str "Parameters for this operation",
    isOptional := isOptional }

theorem argumentGives {isOptional : Bool} {schema : Node} {vs : List ParameterView}
    (ok : (argument parts language owner called isOptional (some schema)).result = .ok vs) :
    ∃ t, (parts.compile owner [.str called, .str "Params"] schema).result = .ok t ∧
      vs = [params (language.dialect.spell t) isOptional] ∧
      (argument parts language owner called isOptional (some schema)).given =
        (parts.compile owner [.str called, .str "Params"] schema).given := by
  unfold argument at ok ⊢
  obtain ⟨type, ended, ok, given⟩ := Trail.bindEnds ok
  obtain ⟨t, found, spelled, inner⟩ := Trail.bindEnds ended
  cases ok
  cases spelled
  refine ⟨t, found, rfl, ?_⟩
  rw [given, compiled, inner]
  simp

theorem operationGives {v : OperationView} {schema : Node}
    (ok : (operation parts language owner o).result = .ok v)
    (asked : argumentSchema parts o = .ok (some schema)) (holds : parts.holds schema = true) :
    ∃ called isOptional inPath t,
      operationName (parts.close o.summary) = .ok called ∧
      mayLeaveOut parts (some schema) = .ok isOptional ∧
      (pathParameters parts language owner called (o.located parts "path")).result = .ok inPath ∧
      (parts.compile owner [.str called, .str "Params"] schema).result = .ok t ∧
      v.parameters = inPath ++ [params (language.dialect.spell t) isOptional] ∧
      untilParams parts language owner o called schema <+:
        (operation parts language owner o).given := by
  have shown : present parts (some schema) = some schema := by simp [present, holds]
  obtain ⟨called, _, isOptional, inPath, inRest, _, source⟩ := operationSource ok
  cases asked.symm.trans source.asked
  have left := source.leavesOut
  have rest := source.rest
  have given := source.given
  rw [shown] at left rest given
  obtain ⟨t, compiled, rfl, own⟩ := argumentGives rest
  refine ⟨called, isOptional, inPath, t, source.named, left, source.path, compiled,
    source.parameters, ?_⟩
  rw [given, own, ← List.append_assoc]
  exact List.prefix_append _ _

theorem leaveOutIff {b : Bool} {query : List Parameter}
    (ok : mayLeaveOut parts (some (Node.object (queryEntries parts query))) = .ok b) :
    b = true ↔ ∀ p ∈ query, p.required = false := by
  have read : mayLeaveOut parts (some (Node.object (queryEntries parts query))) =
      .ok (!(Node.list ((query.filter (·.required)).map (·.name))).holds) := rfl
  cases read.symm.trans ok
  simp [Node.holds]

theorem everyTogether {α β : Type} {R : α → β → Prop} {P : α → Prop} {Q : β → Prop}
    (alike : ∀ a b, R a b → (P a ↔ Q b)) {as : List α} {bs : List β}
    (each : List.Forall₂ R as bs) : (∀ a ∈ as, P a) ↔ ∀ b ∈ bs, Q b := by
  induction each with
  | nil => simp
  | cons here _ ih => rw [List.forall_mem_cons, List.forall_mem_cons, alike _ _ here, ih]

theorem fieldsOptional
    (written : (o.located parts "query").map (fun p => parts.view p.name) = names.map .str)
    {fs : List (Field String)}
    (each : List.Forall₂ (QueryField parts language owner o called) names.eraseDups fs) :
    (∀ f ∈ fs, f.isOptional = true) ↔ ∀ p ∈ o.located parts "query", p.required = false := by
  rw [← everyTogether (fun n f field => field.isOptional.symm) each]
  constructor
  · intro every p member
    have among : textOf parts p.name ∈ names.eraseDups := by
      rw [List.mem_eraseDups, ← namesWritten written]
      exact List.mem_map_of_mem (f := fun p => textOf parts p.name) member
    exact every _ among p
      (List.mem_filter.mpr ⟨member, isTextIff.mpr (nameWritten written member)⟩)
  · exact fun every n _ p member => every p (List.mem_of_mem_filter member)

theorem queryBecomesRecord {r : Registry} {v : OperationView} (get : upperText o.method = "GET")
    (written : (o.located parts "query").map (fun p => parts.view p.name) = names.map .str)
    (some : names ≠ [])
    (ok : (r.absorb
      ((operation parts language owner o).mapGiven language.dialect.define)).2.result = .ok v) :
    ∃ called schema fs inPath isOptional,
      operationName (parts.close o.summary) = .ok called ∧
      o.querySchema parts = .ok (.some schema) ∧
      untilParams parts language owner o called schema <+:
        (operation parts language owner o).given ∧
      (afterParams parts language owner o called schema r).2.result = .ok () ∧
      (afterParams parts language owner o called schema r).1.find? (paramsName called) =
        .some ⟨paramsName called, fs⟩ ∧
      List.Forall₂ (QueryField parts language owner o called) names.eraseDups fs ∧
      v.parameters = inPath ++ [params (paramsName called) isOptional] ∧
      ((o.located parts "path").map fun p => language.parameterName (parts.close p.name)) =
        inPath.map (fun a => .ok a.name) ∧
      (isOptional = true ↔ ∀ f ∈ fs, f.isOptional = true) := by
  obtain ⟨added, ok, _⟩ := Registry.absorbEnds ok
  have shown := querySchemaShown written some
  have asked : argumentSchema parts o =
      .ok (.some (Node.object (queryEntries parts (o.located parts "query")))) := by
    rw [argumentSchema, if_pos get, shown]
  obtain ⟨called, isOptional, inPath, t, named, left, path, compiled, parameters, handed⟩ :=
    operationGives ok asked rfl
  obtain ⟨rfl, inner, fs, given, each⟩ := queryCompiled language written rfl compiled
  have each : List.Forall₂ (QueryField parts language owner o called) names.eraseDups
      (fs.map (Field.map language.dialect.spell)) := List.forall₂_map_right_iff.mpr each
  have ⟨after, whole⟩ := handed
  rw [Trail.mapGiven, ← whole, List.map_append] at added
  have reached := Registry.addAllBefore added
  have row : (untilParams parts language owner o called
      (Node.object (queryEntries parts (o.located parts "query")))).map language.dialect.define =
      ((pathParameters parts language owner called (o.located parts "path")).given ++ inner).map
        language.dialect.define ++
          [⟨paramsName called, fs.map (Field.map language.dialect.spell)⟩] := by
    rw [untilParams, given, ← List.append_assoc, List.map_append]
    rfl
  refine ⟨called, _, _, inPath, isOptional, named, shown, handed, reached, ?_, each, parameters,
    pathParametersShown path, ?_⟩
  · rw [row] at reached
    rw [afterParams, row]
    exact Registry.findLast reached
  · rw [leaveOutIff left, fieldsOptional written each]

def listing : Operation :=
  let located (location name type : String) (required : Bool) : Parameter :=
    ⟨.str name, .str location, required, Node.object [("type", .str type)], .null⟩
  { id := .str "list", path := "/shops/\x7bshop\x7d/pets", method := "get"
    summary := .str "List pets", description := .null, tags := []
    parameters := [located "query" "limit" "string" false, located "header" "limit" "string" true,
      located "query" "name" "string" false, located "path" "shop" "string" true,
      located "query" "limit" "number" true, located "cookie" "session" "string" true,
      located "query" "name" "boolean" false]
    request := none
    responses := [⟨"200", ⟨[⟨.str "application/json", Node.object [("type", .str "string")]⟩]⟩,
      .null⟩] }

theorem listingRecorded :
    upperText listing.method = "GET" ∧
    (listing.located [] "query").map (fun p => Parts.view [] p.name) =
      ["limit", "name", "limit", "name"].map .str ∧
    ["limit", "name", "limit", "name"] ≠ [] ∧
    ∃ v fs, ((Registry.empty true).absorb ((operation [] .python (.str "Pet") listing).mapGiven
        Language.python.dialect.define)).2.result = .ok v ∧
      fs.map (fun f => (f.name, f.type, f.isOptional)) =
        [(.str "limit", "float", false), (.str "name", "bool", true)] ∧
      List.Forall₂ (QueryField [] .python (.str "Pet") listing "ListPets") ["limit", "name"] fs ∧
      v.parameters.map (fun a => (a.name, a.type, a.isOptional)) =
        [(.str "shop", "str", false), (.str "params", "ListPetsParams", false)] := by
  have get : upperText listing.method = "GET" := by decide
  have written : (listing.located [] "query").map (fun p => Parts.view [] p.name) =
      ["limit", "name", "limit", "name"].map .str := rfl
  have some : ["limit", "name", "limit", "name"] ≠ [] := List.cons_ne_nil _ _
  have ends : ∃ v, ((Registry.empty true).absorb ((operation [] .python (.str "Pet")
      listing).mapGiven Language.python.dialect.define)).2.result = .ok v ∧
      v.parameters.map (fun a => (a.name, a.type, a.isOptional)) =
        [(.str "shop", "str", false), (.str "params", "ListPetsParams", false)] := ⟨_, rfl, rfl⟩
  obtain ⟨v, ok, shown⟩ := ends
  obtain ⟨called, schema, fs, inPath, isOptional, named, asked, _, _, found, each, _⟩ :=
    queryBecomesRecord get written some ok
  cases named
  cases asked
  have fields := congrArg (Option.map fun d : Spelled =>
    d.fields.map fun f => (f.name, f.type, f.isOptional)) found
  exact ⟨get, written, some, v, fs, ok, Option.some.inj fields.symm, each, shown⟩

end View
end ClientGen
