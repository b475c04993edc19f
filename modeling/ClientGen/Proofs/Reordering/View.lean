import ClientGen.View.Resource
import ClientGen.Proofs.Reordering.Grouping
import ClientGen.Proofs.Reordering.Schema

/-! The order of keys is not seen in what is shown. A document and one that differs from it only in the
order of such keys, and of what its schemas require, give the same resources, each with the same view
in every language, or are refused for the same reason. -/
namespace ClientGen.Reordering
open Parts Compile

variable {parts parts' : Parts} {owner a b : Node} {o p : Operation} {language : Language}

theorem compiledSame (owned : owner.hashable = true) {chain chain' : List Node}
    (chains : SameChain parts parts' chain chain') (same : Reordered parts parts' .schema a b) :
    View.compiled parts language owner chain a = View.compiled parts' language owner chain' b := by
  unfold View.compiled
  rw [schemasCompile same owned chains]

theorem pathParametersSame (owned : owner.hashable = true) (name : String) {ps qs : List Parameter}
    (parameters : List.Forall₂ (SameParameter parts parts') ps qs) :
    View.pathParameters parts language owner name ps =
      View.pathParameters parts' language owner name qs := by
  induction parameters with
  | nil => rfl
  | @cons p q ps qs here _ ih =>
    have chains : SameChain parts parts' [.str name, p.name, .str "Path"]
        [.str name, q.name, .str "Path"] :=
      .cons rfl (.cons (equalText here.name.equal) (.cons rfl .nil))
    rw [View.pathParameters, View.pathParameters, compiledSame owned chains here.schema, ih,
      show parts.close p.name = parts'.close q.name from here.name.equal,
      show parts.close p.description = parts'.close q.description from here.description]

theorem argumentSame (owned : owner.hashable = true) (name : String) (isOptional : Bool)
    {schema schema' : Option Node} (same : Option.Rel (Reordered parts parts' .schema) schema schema') :
    View.argument parts language owner name isOptional schema =
      View.argument parts' language owner name isOptional schema' := by
  cases same with
  | none => rfl
  | some alike =>
    have chains : SameChain parts parts' [.str name, .str "Params"] [.str name, .str "Params"] :=
      .cons rfl (.cons rfl .nil)
    rw [View.argument, View.argument, compiledSame owned chains alike]

theorem preferredFound {ms ns : List MediaType} (media : List.Forall₂ (SameMedia parts parts') ms ns) :
    Option.Rel (SameMedia parts parts') (ms.find? Content.isPreferred)
      (ns.find? Content.isPreferred) := by
  induction media with
  | nil => exact .none
  | cons here _ ih =>
    rw [List.find?_cons, List.find?_cons, Content.isPreferred, Content.isPreferred, ← here.type]
    split
    · exact .some here
    · exact ih

theorem defaultMedia {c d : Content} (content : SameContent parts parts' c d) :
    Option.Rel (SameMedia parts parts') c.default? d.default? := by
  obtain ⟨ms⟩ := c
  obtain ⟨ns⟩ := d
  have media : List.Forall₂ (SameMedia parts parts') ms ns := content
  have preferred := preferredFound media
  simp only [Content.default?]
  generalize ms.find? Content.isPreferred = first at preferred
  generalize ns.find? Content.isPreferred = first' at preferred
  cases preferred with
  | some same => exact .some same
  | none =>
    cases media with
    | nil => exact .none
    | cons here => exact .some here

theorem requiredMedia {c d : Content} (content : SameContent parts parts' c d) :
    Agree (SameMedia parts parts') c.requireDefault d.requireDefault := by
  have found := defaultMedia content
  unfold Content.requireDefault
  generalize c.default? = first at found
  generalize d.default? = first' at found
  cases found with
  | none => exact .refused _
  | some same => exact .read same

theorem responseFound (same : SameOperation parts parts' o p) :
    Agree (SameResponse parts parts') (o.defaultResponse parts) (p.defaultResponse parts') := by
  have responses := same.responses
  have id : parts.plainText o.id = parts'.plainText p.id := congrArg Node.plainText same.id
  unfold Operation.defaultResponse
  generalize o.responses = rs at responses
  generalize p.responses = rs' at responses
  cases responses with
  | nil =>
    rw [id]
    exact .refused _
  | cons here => exact .read here

theorem argumentAgree (same : SameOperation parts parts' o p) :
    Agree (Option.Rel (Reordered parts parts' .schema)) (View.argumentSchema parts o)
      (View.argumentSchema parts' p) := by
  unfold View.argumentSchema
  rw [same.method]
  split
  · exact queryAgree same
  · have request := same.request
    generalize o.request = body at request
    generalize p.request = body' at request
    cases request with
    | none => exact .read .none
    | some content =>
      have found := defaultMedia content
      refine .read ?_
      rw [Option.bind_some, Option.bind_some]
      generalize Content.default? _ = media at found
      generalize Content.default? _ = media' at found
      cases found with
      | none => exact .none
      | some media => exact .some media.schema

theorem presentSame {schema schema' : Option Node}
    (same : Option.Rel (Reordered parts parts' .schema) schema schema') :
    Option.Rel (Reordered parts parts' .schema) (View.present parts schema)
      (View.present parts' schema') := by
  cases same with
  | none => exact .none
  | some alike =>
    simp only [View.present, Option.filter_some, alike.holds]
    split
    · exact .some alike
    · exact .none

theorem Requires.holds (requires : Requires parts parts' a b) : parts.holds a = parts'.holds b := by
  cases requires with
  | nothing left right => rw [left, right]
  | listed there there' => rw [there, there']
  | unlisted there there' => rw [there, there']

theorem leaveOutSame {schema schema' : Option Node}
    (same : Option.Rel (Reordered parts parts' .schema) schema schema') :
    View.mayLeaveOut parts schema = View.mayLeaveOut parts' schema' := by
  cases same with
  | none => rfl
  | some alike =>
    refine Agree.same ((alike.field "required").bind fun v w reads => .read ?_)
    cases reads with
    | names requires => rw [requires.holds]

theorem bothGiven {α β : Type} {R : α → β → Prop} {x : Option α} {y : Option β}
    (same : Option.Rel R x y) : x.isSome = y.isSome := by
  cases same <;> rfl

theorem operationSame (owned : owner.hashable = true) (same : SameOperation parts parts' o p) :
    View.operation parts language owner o = View.operation parts' language owner p := by
  have summary : parts.close o.summary = parts'.close p.summary := same.summary
  have id : parts.close o.id = parts'.close p.id := same.id
  have text : parts.close o.description = parts'.close p.description := same.description
  unfold View.operation
  rw [summary, id, text, same.path, same.method]
  dsimp only
  refine Trail.bindCongr fun name _ => ?_
  refine bindAgree (argumentAgree same) fun declared declared' argument => ?_
  have schema := presentSame argument
  rw [leaveOutSame schema]
  refine Trail.bindCongr fun isOptional _ => ?_
  rw [pathParametersSame owned name (locatedTogether same "path"),
    argumentSame owned name isOptional schema]
  refine Trail.bindCongr fun inPath _ => Trail.bindCongr fun inRest _ => ?_
  refine bindAgree (responseFound same) fun response response' answer => ?_
  refine bindAgree (requiredMedia answer.content) fun media media' returned => ?_
  refine Trail.bindCongr fun path _ => Trail.bindCongr fun method _ => ?_
  have chains : SameChain parts parts' [.str name, .str "Response"] [.str name, .str "Response"] :=
    .cons rfl (.cons rfl .nil)
  rw [compiledSame owned chains returned.schema, bothGiven schema]

theorem operationsSame (owned : owner.hashable = true) {os ps : List Operation}
    (same : List.Forall₂ (SameOperation parts parts') os ps) :
    View.operations parts language owner os = View.operations parts' language owner ps := by
  induction same with
  | nil => rfl
  | cons here _ ih => rw [View.operations, View.operations, operationSame owned here, ih]

section Resource

variable {r s : Resource} (same : SameResource parts parts' r s)
include same

theorem titleAgree : Agree (Equal parts parts') (r.title parts) (s.title parts') := by
  unfold Resource.title
  refine (same.schema.fieldPlain rfl).bind fun title title' unchanged => .read ?_
  rw [← same.name, Parts.orElse, Parts.orElse, equalHolds unchanged.equal]
  split
  · exact unchanged.equal
  · exact equalUsable same.usable

theorem baseNameSame : View.baseName parts r = View.baseName parts' s := by
  have read (ps : Parts) (n : Node) : View.titleText (ps.view n) =
      (nameText ps .notAnObject n).map Naming.typeName := by
    unfold View.titleText nameText
    cases ps.view n <;> rfl
  unfold View.baseName
  refine Agree.same ((titleAgree same).bind fun title title' equal => ?_)
  rw [read, read, nameTextAlike equal]
  exact .ofSame (fun _ => rfl) rfl

theorem namespaceSame (language : Language) :
    View.namespaceOf parts language r = View.namespaceOf parts' language s := by
  unfold View.namespaceOf View.moduleName View.className
  rw [same.name, baseNameSame same]

theorem finishedSame (language : Language) (className : String) (registry : Registry)
    (os : List OperationView) : View.finish parts language r className registry os =
      View.finish parts' language s className registry os := by
  have text : parts.plainText r.name = parts'.plainText r.name :=
    congrArg Node.plainText (equalUsable same.usable)
  unfold View.finish
  rw [text, same.name]
  refine Trail.bindCongr fun types _ => Trail.bindCongr fun _ _ => ?_
  refine bindAgree (titleAgree same) fun title title' equal => ?_
  rw [show parts.close title = parts'.close title' from equal]

theorem viewSame (language : Language) (strict : Bool) (className : String) :
    View.resource parts language strict r className =
      View.resource parts' language strict s className := by
  have compiled : View.compiledOperations parts language r =
      View.compiledOperations parts' language s := by
    have name : SameChain parts parts' [r.name] [s.name] :=
      .cons (by rw [← same.name, viewBoth same.usable]) .nil
    unfold View.compiledOperations
    rw [schemasCompile same.schema same.usable name, operationsSame same.usable same.operations,
      same.name]
  have finished : View.finish parts language r className =
      View.finish parts' language s className :=
    funext fun registry => funext fun os => finishedSame same language className registry os
  unfold View.resource
  rw [compiled, finished]

end Resource

structure ShownAlike (parts parts' : Parts) (r s : Resource) : Prop where
  resource : SameResource parts parts' r s
  place (language : Language) :
    View.namespaceOf parts language r = View.namespaceOf parts' language s
  view (language : Language) (strict : Bool) (className : String) :
    View.resource parts language strict r className = View.resource parts' language strict s className

-- What is reported on the way is the same, and so is the reason where a document is refused.
theorem keyOrderUnseen {d d' : Document} {registry registry' : Option Node}
    (reordered : Reordered d.parts d'.parts .root d.root d'.root)
    (knows : Option.Rel (Knows d.parts d'.parts) registry registry') :
    Abreast (List.Forall₂ (ShownAlike d.parts d'.parts)) (Grouping.build d registry)
      (Grouping.build d' registry') := by
  obtain ⟨given, result⟩ := buildAbreast reordered knows
  refine ⟨given, result.imp fun rs ss alike => alike.imp fun r s same => ?_⟩
  exact ⟨same, namespaceSame same, viewSame same⟩

def device : Node :=
  Node.object [("type", .str "object"), ("x-openapi-name", .str "Device"),
    ("required", .list [.str "id", .str "name"]),
    ("properties", Node.object [("id", Node.object [("type", .str "string")])])]

def turnedDevice : Node :=
  Node.object [("properties", Node.object [("id", Node.object [("type", .str "string")])]),
    ("required", .list [.str "name", .str "id", .str "name"]), ("x-openapi-name", .str "Device"),
    ("type", .str "object")]

def answers : Node :=
  Node.object [("default", Node.object [("content", Node.object [
    ("application/json", Node.object [("schema", .link 0)])])])]

def reading : Node := Node.object [("summary", .str "Read devices"), ("responses", answers)]

def turnedReading : Node := Node.object [("responses", answers), ("summary", .str "Read devices")]

def removing : Node := Node.object [("responses", answers)]

def components : Node := Node.object [("Member", .map []), ("Device", .link 0)]

def turnedComponents : Node := Node.object [("Device", .link 0), ("Member", .map [])]

def devices : Document where
  root := Node.object [
    ("paths", Node.object [("/devices", Node.object [("get", reading), ("delete", removing)])]),
    ("components", Node.object [("schemas", components)])]
  parts := [device]

def turnedDevices : Document where
  root := Node.object [
    ("paths", Node.object [("/devices", Node.object [("delete", removing), ("get", turnedReading)])]),
    ("components", Node.object [("schemas", turnedComponents)])]
  parts := [turnedDevice]

theorem deviceTurned : Reordered devices.parts turnedDevices.parts .schema (.link 0) (.link 0) := by
  refine objectReordered [("type", .str "object"), ("x-openapi-name", .str "Device"),
    ("required", .list [.str "name", .str "id", .str "name"]),
    ("properties", Node.object [("id", Node.object [("type", .str "string")])])] rfl rfl (by decide)
    (.inr ⟨rfl, (List.reverse_perm _).symm⟩) ?_
  refine .cons ⟨rfl, .plain (unchangedUsable rfl)⟩ (.cons ⟨rfl, .plain (unchangedUsable rfl)⟩ ?_)
  refine .cons ⟨rfl, .names (namesMembers ?_ ?_)⟩ (.cons ⟨rfl, .as ?_⟩ .nil)
  · simp [Node.hashable]
  · simp
  · refine objectReordered _ rfl rfl (by decide) (.inl rfl) (.cons ⟨rfl, .as ?_⟩ .nil)
    exact objectReordered _ rfl rfl (by decide) (.inl rfl)
      (.cons ⟨rfl, .plain (unchangedUsable rfl)⟩ .nil)

theorem answersTurned : Reordered devices.parts turnedDevices.parts .responses answers answers := by
  refine objectReordered _ rfl rfl (by decide) (.inl rfl) (.cons ⟨rfl, .as ?_⟩ .nil)
  refine objectReordered _ rfl rfl (by decide) (.inl rfl) (.cons ⟨rfl, .as ?_⟩ .nil)
  refine objectReordered _ rfl rfl (by decide) (.inl rfl) (.cons ⟨rfl, .as ?_⟩ .nil)
  exact objectReordered _ rfl rfl (by decide) (.inl rfl) (.cons ⟨rfl, .as deviceTurned⟩ .nil)

theorem devicesTurned :
    Reordered devices.parts turnedDevices.parts .root devices.root turnedDevices.root := by
  refine objectReordered _ rfl rfl (by decide) (.inl rfl)
    (.cons ⟨rfl, .as ?paths⟩ (.cons ⟨rfl, .as ?components⟩ .nil))
  case paths =>
    refine objectReordered _ rfl rfl (by decide) (.inl rfl) (.cons ⟨rfl, .as ?_⟩ .nil)
    refine objectReordered [("get", turnedReading), ("delete", removing)] rfl rfl (by decide)
      (.inr ⟨rfl, .swap _ _ _⟩) (.cons ⟨rfl, .as ?_⟩ (.cons ⟨rfl, .as ?_⟩ .nil))
    · exact objectReordered [("summary", .str "Read devices"), ("responses", answers)] rfl rfl
        (by decide) (.inr ⟨rfl, .swap _ _ _⟩)
        (.cons ⟨rfl, .plain (unchangedUsable rfl)⟩ (.cons ⟨rfl, .as answersTurned⟩ .nil))
    · exact objectReordered _ rfl rfl (by decide) (.inl rfl) (.cons ⟨rfl, .as answersTurned⟩ .nil)
  case components =>
    refine objectReordered _ rfl rfl (by decide) (.inl rfl) (.cons ⟨rfl, .as ?_⟩ .nil)
    exact objectReordered [("Member", .map []), ("Device", .link 0)] rfl rfl (by decide)
      (.inr ⟨rfl, .swap _ _ _⟩)
      (.cons ⟨rfl, .as reorderedEmpty⟩ (.cons ⟨rfl, .as deviceTurned⟩ .nil))

theorem devicesUnseen :
    Reordered devices.parts turnedDevices.parts .root devices.root turnedDevices.root ∧
    Option.Rel (Knows devices.parts turnedDevices.parts) (some components) (some turnedComponents) ∧
    (Grouping.build devices (some components)).result.map List.length = .ok 1 ∧
    Abreast (List.Forall₂ (ShownAlike devices.parts turnedDevices.parts))
      (Grouping.build devices (some components))
      (Grouping.build turnedDevices (some turnedComponents)) := by
  have left : devices.parts.view components =
      .map [(.str "Member", .map []), (.str "Device", .link 0)] := rfl
  have right : turnedDevices.parts.view turnedComponents =
      .map [(.str "Device", .link 0), (.str "Member", .map [])] := rfl
  have knows : Knows devices.parts turnedDevices.parts components turnedComponents :=
    fun name _ => mapsContain left right (.swap _ _ _) name
  exact ⟨devicesTurned, .some knows, by decide +kernel, keyOrderUnseen devicesTurned (.some knows)⟩

end ClientGen.Reordering
