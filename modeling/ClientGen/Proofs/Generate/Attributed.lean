import ClientGen.Proofs.Document.Returned
import ClientGen.Proofs.Generate.Provenance

/-! Attribution from end to end. An operation whose default response refers to a component schema,
or to a list envelope of one, stands once in the resource of that component, and in no other; and
the schema of this resource carries the name of the component. A component that marks itself as a
list, and the component that a whole document refers to, are excepted. -/
namespace ClientGen
namespace Generate
open Reference Document Grouping

def Sited (library : Library) (k : Nat) (path : Node) (method : String) (operation : Place) :
    Prop :=
  method ∈ methodKeys ∧ ∃ paths es v item, Under library .origin "paths" (.place paths) ∧
    library.valueAt paths = .map es ∧ es[k]? = some (path, v) ∧
    library.Denotes (paths.child k) (.place item) ∧ Under library item method (.place operation)

def declaredOn (parts : Parts) (e : Node × Node) : List Declared :=
  methodKeys.filterMap (declaredAt parts e.1.plainText e.2)

structure Listed (d : Document) (k : Nat) (path : Node) (method : String) (before : List Declared)
    (w : Declared) (after : List Declared) : Prop where
  whole : Grouping.walk d.parts d.root = before ++ w :: after
  onPath : w.path = path.plainText
  byMethod : w.method = method
  place : ∃ entries item earlier later,
    entries = members d.parts ((Entries.at? "paths" (members d.parts d.root)).getD .null) ∧
    entries[k]? = some (path, item) ∧
    declaredOn d.parts (path, item) = earlier ++ w :: later ∧
    before = (entries.take k).flatMap (declaredOn d.parts) ++ earlier ∧
    after = later ++ (entries.drop (k + 1)).flatMap (declaredOn d.parts)

theorem declaredThere {parts : Parts} {path method : String} {item raw : Node}
    (field : parts.field item method = .ok raw) (holds : parts.holds raw = true) :
    declaredAt parts path item method = some ⟨path, method, raw⟩ := by
  have value := fieldMember field
  unfold declaredAt
  cases found : Entries.at? method (members parts item) with
  | none =>
    rw [found] at value
    cases value
    cases holds
  | some n =>
    rw [found] at value
    cases value
    have holds : parts.holds n = true := holds
    simp [Option.filter, holds]

theorem flatMapAt {α β : Type} (f : α → List β) {as : List α} {k : Nat} {a : α}
    (there : as[k]? = some a) :
    as.flatMap f = (as.take k).flatMap f ++ (f a ++ (as.drop (k + 1)).flatMap f) := by
  obtain ⟨bound, rfl⟩ := List.getElem?_eq_some_iff.mp there
  have split : as = as.take k ++ as[k] :: as.drop (k + 1) := by
    rw [← List.drop_eq_getElem_cons bound, List.take_append_drop]
  calc as.flatMap f = (as.take k ++ as[k] :: as.drop (k + 1)).flatMap f :=
        congrArg (List.flatMap f) split
    _ = _ := by rw [List.flatMap_append, List.flatMap_cons]

theorem listedAt {d : Document} {k : Nat} {path item raw : Node} {method : String}
    (there : (members d.parts ((Entries.at? "paths" (members d.parts d.root)).getD .null))[k]? =
      some (path, item)) (known : method ∈ methodKeys)
    (field : d.parts.field item method = .ok raw) (holds : d.parts.holds raw = true) :
    ∃ before after, Listed d k path method before ⟨path.plainText, method, raw⟩ after := by
  have declared : declaredAt d.parts path.plainText item method =
      some ⟨path.plainText, method, raw⟩ := declaredThere field holds
  obtain ⟨ms₁, ms₂, methods⟩ := List.append_of_mem known
  have on : declaredOn d.parts (path, item) =
      ms₁.filterMap (declaredAt d.parts path.plainText item) ++ ⟨path.plainText, method, raw⟩ ::
        ms₂.filterMap (declaredAt d.parts path.plainText item) := by
    rw [declaredOn, methods, List.filterMap_append, List.filterMap_cons_some declared]
  refine ⟨_, _, ?_, rfl, rfl, _, item, _, _, rfl, there, on, rfl, rfl⟩
  have whole := flatMapAt (declaredOn d.parts) there
  rw [on] at whole
  exact whole.trans (by simp)

theorem sitedListed {library : Library} {w : Walk} {d : Document} (inlined : Inlined library w d)
    (own : (library.valueAt .origin).reference? = none) {k : Nat} {path : Node} {method : String}
    {operation : Place} (sited : Sited library k path method operation) {key : String} {t : Target}
    (some : Under library operation key t) : ∃ before x after,
      Listed d k path method before x after ∧
      Stands library w d.parts x.raw (.place operation) := by
  obtain ⟨known, paths, es, v, item, underPaths, here, there, denotes, underMethod⟩ := sited
  obtain ⟨t, origin, root⟩ := inlined.rootStands
  cases origin.symm.trans (library.plainDenotes own)
  obtain ⟨u, field, stands⟩ := inlined.fieldStands root underPaths
  obtain ⟨value, shows, inner⟩ := inlined.mapShown stands here
  obtain ⟨t, denotes', standsItem⟩ := inner k (List.getElem?_eq_some_iff.mp there).1
  cases denotes.symm.trans denotes'
  obtain ⟨raw, fieldMethod, standsRaw⟩ := inlined.fieldStands standsItem underMethod
  have entries : members d.parts ((Entries.at? "paths" (members d.parts d.root)).getD .null) =
      filled value es := by
    rw [← fieldMember field, members, shows]
  obtain ⟨before, after, listed⟩ := listedAt (entries ▸ filledAt there) known fieldMethod
    (inlined.holdsStand standsRaw some)
  exact ⟨before, _, after, listed, standsRaw⟩

theorem componentNamed {raw s : Node} {sharing : Sharing} {library : Library} {w : Walk}
    {d : Document} {way : List Nat} {n : String} {own : Entries}
    (entered : Entered raw sharing s library way (.str n) own) (inlined : Inlined library w d)
    {v : Node} (stands : Stands library w d.parts v (.place ⟨0, way⟩)) :
    d.parts.origin v = .ok (.str n) := by
  obtain ⟨q, under, copy⟩ := entered.named
  obtain ⟨u, field, carried⟩ := inlined.fieldStands stands under
  have usable := componentUsable entered.formed entered.component
  have text := inlined.textShown ((nameShown inlined usable copy carried).mpr rfl)
  rw [Parts.origin, if_pos (inlined.holdsStand stands under), field, text]

theorem componentRegistered {raw : Node} (formed : raw.wellFormed = true) {way : List Nat}
    {n : String} {own : Entries} (component : Component raw way (.str n) own) {registry : Node}
    (registered : Grouping.schemas [] raw = .ok registry) (parts : Parts) :
    has parts registry (.str n) = true := by
  obtain ⟨⟨top, inner, all, i, j, k, steps, _⟩, _⟩ := component
  cases (stepsTable formed steps).1.symm.trans registered
  obtain ⟨rfl, atComponents, atSchemas, there⟩ := steps
  have formedSchemas := (Node.memberFormed (Node.memberFormed formed atComponents).2 atSchemas).2
  have listed : Entries.has n all = true := by
    rw [Entries.has, atUnique (Node.mapFormed formedSchemas) there]
    rfl
  have shows : parts.view (.map all) = .map all := rfl
  simp [has, Parts.contains, shows, Node.anyText, listed]

theorem lookupHas {parts : Parts} {schemas v : Node} {n : String}
    (found : parts.lookup schemas (.str n) = .ok v) : has parts schemas (.str n) = true := by
  have text : parts.view (.str n) = .str n := rfl
  unfold Parts.lookup at found
  rw [text] at found
  cases shows : parts.view schemas with
  | map es =>
    simp only [shows, Node.hashable, Node.findKeyText] at found
    cases there : Entries.at? n es with
    | none => simp [there] at found
    | some u => simp [has, Parts.contains, shows, Node.anyText, Entries.has, there]
  | list | str => simp [shows, Parts.position?] at found
  | _ => simp [shows] at found

theorem libraryFormed {n : Node} {library : Library} (formed : n.wellFormed = true)
    (opened : libraryOf n = .ok library) : library.WellFormed := by
  obtain ⟨n', inner, opened⟩ := Fault.bindOk opened
  cases opened
  exact Library.ofNodeFormed (settledFormed (normalFormed formed) inner)

-- An operation that returns a component, or a list of it, stands in the resource of the component.
theorem referenceAttributed {raw s : Node} {sharing : Sharing} {library : Library}
    {parsed : Parsed} {rs : List Resource} (formed : raw.wellFormed = true)
    (consistent : Consistent sharing raw) (plain : Plain raw)
    (inlines : (inlined raw sharing).result = .ok parsed)
    (built : (build parsed.document (some parsed.schemas)).result = .ok rs)
    (stamps : stamped raw sharing = .ok s) (opened : libraryOf s = .ok library)
    (rooted : (library.valueAt .origin).reference? = none)
    {way : List Nat} {n : String} {own : Entries} (component : Component raw way (.str n) own)
    (latest : Latest sharing raw way) (named : n ≠ "")
    {k : Nat} {path : Node} {method : String} {operation schema : Place}
    (sited : Sited library k path method operation) (returns : Returns library operation schema)
    (leads : Envelope library schema ⟨0, way⟩ ∨ schema = ⟨0, way⟩ ∧ ∀ schemas v,
      Grouping.schemas parsed.document.parts parsed.document.root = .ok schemas →
      parsed.document.parts.lookup schemas (.str n) = .ok v →
      ¬ Marked parsed.document.parts v) :
    ∃ before w after r, Listed parsed.document k path method before w after ∧
      Once parsed.document.parts rs before w after r ∧ r.name = .str n ∧
      parsed.document.parts.origin r.schema = .ok (.str n) := by
  obtain ⟨s', library', w, stamps', opened', inlined, registered⟩ := inlinedFrom inlines
  cases stamps.symm.trans stamps'
  cases opened.symm.trans opened'
  have entered : Entered raw sharing s library way (.str n) own :=
    ⟨formed, consistent, stamps, opened, component, latest⟩
  obtain ⟨schemas, v, declared, found, entry⟩ := entered.stands plain rooted inlined
  obtain ⟨q, stamp, _⟩ := entered.named
  have formedLibrary := libraryFormed (stampedFormed formed stamps) opened
  obtain ⟨_, _, _, _, inside, _⟩ := id returns
  obtain ⟨before, x, after, listed, stands⟩ := sitedListed inlined rooted sited inside
  have carries {u : Node} (stands : Stands library w parsed.document.parts u (.place ⟨0, way⟩)) :=
    componentNamed entered inlined stands
  have holds : ∃ key t, Under library schema key t := by
    rcases leads with ⟨_, _, _, properties, _⟩ | ⟨rfl, _⟩
    · exact ⟨_, _, properties⟩
    · exact ⟨_, _, stamp⟩
  have finds (u : Node) (item : Option Node)
      (stands : Stands library w parsed.document.parts u (.place schema))
      (done : Resource.listItemSchema parsed.document.parts u = .ok item) :
      ∃ m, item = some m ∧ parsed.document.parts.origin m = .ok (.str n) := by
    rcases leads with envelope | ⟨rfl, unmarked⟩
    · obtain ⟨m, rfl, stands⟩ := inlined.envelopeItem stands envelope stamp done
      exact ⟨m, rfl, carries stands⟩
    · have same : parsed.document.parts.view u = parsed.document.parts.view v :=
        stands.shows.trans entry.shows.symm
      have item := unmarkedItem (fun marked => unmarked schemas v declared found
        (markedSame same marked)) done
      exact ⟨u, item, carries stands⟩
  obtain ⟨r, once, name, schema⟩ := attachedOnce built listed.whole (fun name named => by
    rw [inlined.returnedName stands formedLibrary returns named holds finds]
    rfl) named declared (componentRegistered formed component registered _) (lookupHas found)
  cases schema.symm.trans found
  exact ⟨before, x, after, r, listed, once, name, carries entry⟩

def listing (data stamps : List (String × Node)) : Node := Node.object ([("type", .str "object"),
  ("properties", Node.object [("object", Node.object [("enum", .list [.str "list"])]),
    ("data", Node.object data)])] ++ stamps)

theorem answerReturns {library : Library} {operation schema : Place} {returned : Node}
    (answers : library.valueAt operation = answer returned)
    (denotes : library.Denotes (((((operation.child 0).child 0).child 0).child 0).child 0)
      (.place schema)) : Returns library operation schema := by
  have responses := library.valueAtChild operation 0
  rw [answers] at responses
  have response := library.valueAtChild (operation.child 0) 0
  rw [responses] at response
  have content := library.valueAtChild ((operation.child 0).child 0) 0
  rw [response] at content
  have media := library.valueAtChild (((operation.child 0).child 0).child 0) 0
  rw [content] at media
  refine ⟨_, _, _, _, ⟨_, 0, answers, rfl, library.plainDenotes ?_⟩,
    ⟨_, 0, responses, rfl, library.plainDenotes ?_⟩,
    ⟨_, 0, response, rfl, library.plainDenotes ?_⟩,
    ⟨_, 0, content, library.plainDenotes ?_, .inl rfl⟩, ⟨_, 0, media, rfl, denotes⟩⟩
  · rw [responses]
    rfl
  · rw [response]
    rfl
  · rw [content]
    rfl
  · rw [media]
    rfl

section Catalog

variable {library : Library} {own returned : Node}
  (first : library.contentAt 0 = catalog own returned)
include first

theorem catalogHas (way : List Nat) :
    library.valueAt ⟨0, way⟩ = valueAlong (catalog own returned) way := by
  rw [Library.valueAt, first]

theorem catalogUnder {way : List Nat} {key : String} {es : Entries} {i : Nat}
    (here : valueAlong (catalog own returned) way = .map es) (found : indexOfKey? key es = some i)
    (plain : (valueAlong (catalog own returned) (way ++ [i])).reference? = none) :
    Under library ⟨0, way⟩ key (.place ⟨0, way ++ [i]⟩) := by
  refine ⟨es, i, (catalogHas first way).trans here, found, library.plainDenotes ?_⟩
  rw [Place.child, catalogHas first, plain]

theorem catalogSited : Sited library 0 (.str "/a") "get" ⟨0, [0, 0, 0]⟩ := by
  refine ⟨by decide, ⟨0, [0]⟩, _, _, ⟨0, [0, 0]⟩, catalogUnder first rfl rfl rfl,
    catalogHas first [0], rfl, library.plainDenotes ?_, catalogUnder first rfl rfl rfl⟩
  rw [Place.child, catalogHas first]
  rfl

end Catalog

def widgets (item : Node) : Node := listing [("type", .str "array"), ("items", item)] []

theorem catalogComponent {own : Entries} {returned : Node}
    (plain : Entries.has "$ref" own = false) :
    Component (catalog (.map own) returned) [1, 0, 0] (.str "Widget") own ∧
      Plain (catalog (.map own) returned) :=
  ⟨⟨⟨_, _, _, 1, 0, 0, ⟨rfl, rfl, rfl, rfl⟩, rfl⟩, plain⟩, _, _, _, rfl, rfl, rfl, rfl, rfl⟩

theorem widgetsEnvelope {library : Library} {own : Node}
    (first : library.contentAt 0 = catalog own (widgets toWidget)) {item : Place}
    (denotes : library.Denotes ⟨0, [0, 0, 0, 0, 0, 0, 0, 0, 1, 1, 1]⟩ (.place item)) :
    Envelope library ⟨0, [0, 0, 0, 0, 0, 0, 0, 0]⟩ item := by
  refine ⟨⟨0, [0, 0, 0, 0, 0, 0, 0, 0, 1]⟩, ⟨0, [0, 0, 0, 0, 0, 0, 0, 0, 1, 1]⟩,
    .place ⟨0, [0, 0, 0, 0, 0, 0, 0, 0, 1, 1, 0]⟩, catalogUnder first rfl rfl rfl, ?_,
    catalogUnder first rfl rfl rfl, catalogUnder first rfl rfl rfl, catalogHas first _,
    ⟨_, 1, catalogHas first _, rfl, denotes⟩⟩
  refine ⟨⟨0, [0, 0, 0, 0, 0, 0, 0, 0, 1, 0]⟩, ⟨0, [0, 0, 0, 0, 0, 0, 0, 0, 1, 0, 0]⟩, _, _,
    .place ⟨0, [0, 0, 0, 0, 0, 0, 0, 0, 1, 0, 0, 0]⟩, catalogUnder first rfl rfl rfl,
    catalogUnder first rfl rfl rfl, catalogHas first _, library.plainDenotes ?_,
    catalogHas first _⟩
  rw [Place.child, catalogHas first]
  rfl

def stampedWidgets : Node := catalog (widget stamp) (widgets toWidget)

theorem widgetsAttributed :
    let d : Document := ⟨catalog (.link 0) (widgets (.link 0)), [widget stamp]⟩
    ∃ rs before w after r, (inlined (catalog (widget []) (widgets toWidget))).result =
      .ok ⟨catalog (widget []) (widgets toWidget), d, Node.object [("Widget", widget [])]⟩ ∧
    (build d (some (Node.object [("Widget", widget [])]))).result = .ok rs ∧
    Listed d 0 (.str "/a") "get" before w after ∧ Once d.parts rs before w after r ∧
    r.name = .str "Widget" ∧ d.parts.origin r.schema = .ok (.str "Widget") := by
  intro d
  have inlines : (inlined (catalog (widget []) (widgets toWidget))).result =
      .ok ⟨catalog (widget []) (widgets toWidget), d, Node.object [("Widget", widget [])]⟩ := by rfl
  obtain ⟨rs, built⟩ : ∃ rs,
      (build d (some (Node.object [("Widget", widget [])]))).result = .ok rs := ⟨_, rfl⟩
  have first : Library.contentAt [⟨[], [], stampedWidgets⟩] 0 = stampedWidgets := rfl
  obtain ⟨own, component, plain⟩ : ∃ own,
      Component (catalog (widget []) (widgets toWidget)) [1, 0, 0] (.str "Widget") own ∧
      Plain (catalog (widget []) (widgets toWidget)) := ⟨_, catalogComponent rfl⟩
  have stamps : stamped (catalog (widget []) (widgets toWidget)) = .ok stampedWidgets := by rfl
  have opened : libraryOf stampedWidgets = .ok [⟨[], [], stampedWidgets⟩] := by rfl
  have denotes : Library.Denotes [⟨[], [], stampedWidgets⟩]
      ⟨0, [0, 0, 0, 0, 0, 0, 0, 0, 1, 1, 1]⟩ (.place ⟨0, [1, 0, 0]⟩) := by rfl
  have inline : Library.Denotes [⟨[], [], stampedWidgets⟩] ⟨0, [0, 0, 0, 0, 0, 0, 0, 0]⟩
      (.place ⟨0, [0, 0, 0, 0, 0, 0, 0, 0]⟩) := Library.plainDenotes rfl
  obtain ⟨before, w, after, r, all⟩ := referenceAttributed (by decide +kernel)
    (consistentAlone _) plain inlines built stamps opened rfl component (latestAlone _ _)
    (by decide) (catalogSited first) (answerReturns (catalogHas first [0, 0, 0]) inline)
    (.inl (widgetsEnvelope first denotes))
  exact ⟨rs, before, w, after, r, inlines, built, all⟩

structure Dropped (raw : Node) (sharing : Sharing) (library : Library) (parsed : Parsed)
    (operation : Place) (way : List Nat) : Prop where
  consistent : Consistent sharing raw
  plain : Plain raw
  component : ∃ own, Component raw way (.str "Widget") own
  opened : (stamped raw sharing >>= libraryOf) = .ok library
  inlines : (inlined raw sharing).result = .ok parsed
  declared : (Grouping.walk parsed.document.parts parsed.document.root).map
    (fun w => (w.path, w.method)) = [("/a", "get")]
  returns : Returns library operation ⟨0, way⟩
  single : ∀ kind, (do
    let properties ← parsed.document.parts.field (.link 0) "properties"
    let data ← parsed.document.parts.field properties "data"
    parsed.document.parts.field data "type") = .ok kind →
      parsed.document.parts.isText kind "array" = false
  dropped : ∃ rs, ∃ names : List String,
    (build parsed.document (some parsed.schemas)).result = .ok rs ∧
    rs.map (·.name) = names.map .str ∧ "Widget" ∉ names

def unlisted (stamps : List (String × Node)) : Node := listing [("type", .str "object")] stamps

def toSelf (own : Node) : Node := Node.object [("$ref", .str "#/components/schemas/Widget"),
  ("components", Node.object [("schemas", Node.object [("Widget", own)])])]

def pathsReturning (returned : Node) : Node :=
  Node.object [("/a", Node.object [("get", answer returned)])]

def serving (paths : Node) (stamps : List (String × Node)) : Node :=
  Node.object ([("paths", paths)] ++ stamps)

def selfReturning (stamps : List (String × Node)) : Node :=
  serving (pathsReturning (Node.object [("$ref", .str "#")])) stamps

def twoNames (first second returned : Node) : Node := Node.object [
  ("paths", pathsReturning returned),
  ("components", Node.object [("schemas", Node.object [("Widget", first), ("Gadget", second)])])]

def gadget : List (String × Node) := [(originKey, .str "Gadget")]

def oneObject : Sharing := [([1, 0, 0], 0), ([1, 0, 1], 0)]

theorem oneConsistent (own returned : Node) : Consistent oneObject (twoNames own own returned) := by
  have places {p : List Nat} (some : (oneObject.lookup p).isSome = true) :
      valueAlong (twoNames own own returned) p = own := by
    obtain ⟨e, member, here⟩ := List.lookup_isSome_iff.mp some
    rw [beq_iff_eq.mp here]
    simp only [oneObject, List.mem_cons, List.not_mem_nil, or_false] at member
    rcases member with rfl | rfl <;> rfl
  intro p q same
  simp only [Sharing.same, Bool.or_eq_true, Bool.and_eq_true, beq_iff_eq] at same
  rcases same with rfl | ⟨some, equal⟩
  · rfl
  · rw [places some, places (equal ▸ some)]

theorem returnsDropped :
    Dropped (catalog (unlisted []) toWidget) [] [⟨[], [], catalog (unlisted stamp) toWidget⟩]
      ⟨catalog (unlisted []) toWidget, ⟨catalog (.link 0) (.link 0), [unlisted stamp]⟩,
        Node.object [("Widget", unlisted [])]⟩ ⟨0, [0, 0, 0]⟩ [1, 0, 0] ∧
    Dropped (toSelf (selfReturning [])) [] [⟨[], [], toSelf (selfReturning stamp)⟩]
      ⟨toSelf (selfReturning []),
        ⟨serving (.link 1) stamp, [serving (.link 1) stamp, pathsReturning (.link 0)]⟩,
        Node.object [("Widget", selfReturning [])]⟩
      ⟨0, [1, 0, 0, 0, 0, 0]⟩ [1, 0, 0] ∧
    Dropped (twoNames (widget []) (widget []) toWidget) oneObject
      [⟨[], [], twoNames (widget gadget) (widget gadget) toWidget⟩]
      ⟨twoNames (widget []) (widget []) toWidget,
        ⟨twoNames (.link 0) (widget gadget) (.link 0), [widget gadget]⟩,
        Node.object [("Widget", widget []), ("Gadget", widget [])]⟩ ⟨0, [0, 0, 0]⟩ [1, 0, 0] := by
  refine ⟨?_, ?_, ?_⟩
  · exact {
      consistent := consistentAlone _
      plain := ⟨_, _, _, rfl, rfl, rfl, rfl, rfl⟩
      component := ⟨_, ⟨_, _, _, 1, 0, 0, ⟨rfl, rfl, rfl, rfl⟩, rfl⟩, rfl⟩
      opened := by rfl
      inlines := by rfl
      declared := by rfl
      returns := answerReturns rfl (by rfl)
      single := by rintro _ ⟨⟩; rfl
      dropped := ⟨[], [], by rfl, rfl, by decide⟩ }
  · exact {
      consistent := consistentAlone _
      plain := ⟨_, _, _, rfl, rfl, rfl, rfl, rfl⟩
      component := ⟨_, ⟨_, _, _, 1, 0, 0, ⟨rfl, rfl, rfl, rfl⟩, rfl⟩, rfl⟩
      opened := by rfl
      inlines := by rfl
      declared := by rfl
      returns := answerReturns rfl (by rfl)
      single := by rintro _ ⟨⟩
      dropped := ⟨[], [], by rfl, rfl, by decide⟩ }
  · exact {
      consistent := oneConsistent _ _
      plain := ⟨_, _, _, rfl, rfl, rfl, rfl, rfl⟩
      component := ⟨_, ⟨_, _, _, 1, 0, 0, ⟨rfl, rfl, rfl, rfl⟩, rfl⟩, rfl⟩
      opened := by rfl
      inlines := by rfl
      declared := by rfl
      returns := answerReturns rfl (by rfl)
      single := by rintro _ ⟨⟩
      dropped := ⟨_, ["Gadget"], by rfl, by rfl, by decide⟩ }

end Generate
end ClientGen
