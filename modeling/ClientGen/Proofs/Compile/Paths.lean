import ClientGen.Proofs.Compile.Keyed
import ClientGen.Proofs.Compile.Named
import Mathlib.Data.List.DropRight

/-! How records are named. A record is reached from the schema that is compiled by steps down, to
the items of an array or to a property of an object, and the path alone tells its name. The last
titled object on the path, the record itself included, gives its title, and the properties behind it
follow. Where no object on the path has a title, the chain that the compilation began with stands in
its place and all properties count. -/
namespace ClientGen
namespace Compile

inductive Descent
  | item (inner : Node)
  | property (name inner : Node)

section Paths

variable (parts : Parts)

def spelling (n : Node) : List Char := ((parts.view n).text?.getD "").toList

def Descent.inner : Descent → Node
  | .item inner => inner
  | .property _ inner => inner

def Descent.letters : Descent → List Char
  | .item _ => []
  | .property name _ => spelling parts name

def titleOf (schema : Node) : Option (List Char) :=
  match parts.shape schema, parts.entries schema with
  | .ok .object, .ok entries =>
    match parts.view ((Entries.at? "title" entries).getD .null) with
    | .str title =>
      if (Naming.typeName title.toList).isEmpty then none else some (Naming.typeName title.toList)
    | _ => none
  | _, _ => none

def baseOf (start : List Char) (schema : Node) (path : List Descent) : List Char :=
  ((schema :: path.map Descent.inner).reverse.findSome? (titleOf parts)).getD start

def behind (path : List Descent) : List Descent :=
  path.rtakeWhile fun step => (titleOf parts step.inner).isNone

def pathName (start : List Char) (schema : Node) (path : List Descent) : String :=
  formatName (baseOf parts start schema path) ++
    String.join ((behind parts path).map fun step => formatName (step.letters parts))

variable (owner : Node)

inductive Descends (chain : List Node) (schema : Node) : Descent → List Node → Prop
  | item {entries} (shape : parts.shape schema = .ok .array)
      (held : parts.entries schema = .ok entries) :
      Descends chain schema (.item (itemSchema parts entries)) chain
  | property {entries title properties name inner} (shape : parts.shape schema = .ok .object)
      (held : parts.entries schema = .ok entries)
      (own : isForeign parts owner entries = false)
      (titled : titleName parts entries = .ok title)
      (holds : Compile.properties parts entries = .ok properties)
      (member : (name, inner) ∈ properties) :
      Descends chain schema (.property name inner) (innerChain title chain ++ [name])

inductive Visits (chain : List Node) (schema : Node) : List Descent → List Node → Node → Prop
  | here : Visits chain schema [] chain schema
  | deeper {path chain' schema' step chain''} (above : Visits chain schema path chain' schema')
      (call : Descends parts owner chain' schema' step chain'') :
      Visits chain schema (path ++ [step]) chain'' step.inner

def Declares (chain : List Node) (schema : Node) (d : Definition TypeRef) : Prop :=
  ∃ fuel before, Ends (compileAt parts owner fuel) chain schema (.named d.name) ∧
    (compileAt parts owner fuel chain schema).given = before ++ [d]

end Paths

variable {parts : Parts} {owner : Node} {chain chain' : List Node} {schema schema' : Node}
  {path : List Descent}

def pathLetters (parts : Parts) (start : List Char) (schema : Node) (path : List Descent) :
    List Char :=
  baseOf parts start schema path ++ (behind parts path).flatMap (Descent.letters parts)

theorem formatAppend (a b : List Char) : formatName (a ++ b) = formatName a ++ formatName b := by
  simp [formatName, String.ofList_append]

theorem pathFormatted (start : List Char) (schema : Node) (path : List Descent) :
    pathName parts start schema path = formatName (pathLetters parts start schema path) := by
  have joined (steps : List Descent) :
      String.join (steps.map fun step => formatName (step.letters parts)) =
        formatName (steps.flatMap (Descent.letters parts)) := by
    induction steps with
    | nil => rfl
    | cons step rest ih => rw [List.map_cons, String.join_cons, ih, List.flatMap_cons, formatAppend]
  rw [pathName, joined, pathLetters, formatAppend]

theorem lettersHere (start : List Char) (schema : Node) :
    pathLetters parts start schema [] = (titleOf parts schema).getD start := by
  cases titled : titleOf parts schema <;> simp [pathLetters, baseOf, behind, titled]

theorem lettersBelow (start : List Char) (schema : Node) (path : List Descent) (step : Descent) :
    pathLetters parts start schema (path ++ [step]) = (titleOf parts step.inner).getD
      (pathLetters parts start schema path ++ step.letters parts) := by
  simp only [pathLetters, baseOf, behind, List.map_append, List.map_cons, List.map_nil,
    ← List.cons_append, List.reverse_append, List.reverse_singleton, List.singleton_append,
    List.findSome?_cons]
  cases titled : titleOf parts step.inner with
  | none => simp [titled]
  | some title => simp [titled]

theorem titleRead {entries : Entries} {title : Option (List Char)}
    (shape : parts.shape schema = .ok .object) (held : parts.entries schema = .ok entries)
    (titled : titleName parts entries = .ok title) : titleOf parts schema = title := by
  simp only [titleOf, shape, held]
  unfold titleName at titled
  generalize (Entries.at? "title" entries).getD .null = value at titled ⊢
  cases shown : parts.view value with
  | str text =>
    cases empty : text.isEmpty with
    | true =>
      simp only [Parts.holds, shown, Node.holds, empty, Bool.not_true, Bool.false_eq_true,
        ↓reduceIte] at titled
      cases titled
      rw [String.isEmpty_iff.mp empty]
      rfl
    | false =>
      simp only [Parts.holds, shown, Node.holds, empty, Bool.not_false, ↓reduceIte,
        nameText] at titled
      exact Except.ok.inj titled
  | _ =>
    simp only [nameText, shown] at titled
    split at titled
    · cases titled
    · exact Except.ok.inj titled

theorem untitledOther (other : parts.shape schema ≠ .ok .object) :
    titleOf parts schema = none := by
  unfold titleOf
  split
  · contradiction
  · rfl

theorem untitledArray (shape : parts.shape schema = .ok .array) : titleOf parts schema = none :=
  untitledOther (by simp [shape])

-- On the path. The chain spells what the path has come to, up to the title of the schema itself.
theorem visitLetters (visits : Visits parts owner chain schema path chain' schema') :
    (titleOf parts schema').getD (chain'.flatMap (spelling parts)) =
      pathLetters parts (chain.flatMap (spelling parts)) schema path := by
  induction visits with
  | here => rw [lettersHere]
  | deeper above call ih =>
    rw [lettersBelow, ← ih]
    cases call with
    | item shape held => simp [untitledArray shape, Descent.letters]
    | @property entries title properties name inner shape held own titled holds member =>
      rw [titleRead shape held titled]
      cases title <;> simp [innerChain, Descent.letters, spelling, Parts.view, Node.text?]

theorem chainSpelled {letters : List Char} (spelled : chainText parts chain = .ok letters) :
    letters = chain.flatMap (spelling parts) := by
  induction chain generalizing letters with
  | nil =>
    cases spelled
    rfl
  | cons n rest ih =>
    obtain ⟨first, here, spelled⟩ := Fault.bindOk spelled
    obtain ⟨others, later, spelled⟩ := Fault.bindOk spelled
    cases spelled
    unfold nameText at here
    split at here
    · rename_i text shown
      cases here
      rw [List.flatMap_cons, ih later, spelling, shown]
      rfl
    · contradiction

theorem declaresRecord {d : Definition TypeRef} (declares : Declares parts owner chain schema d) :
    ∃ entries title letters, parts.shape schema = .ok .object ∧
      parts.entries schema = .ok entries ∧ isForeign parts owner entries = false ∧
      titleName parts entries = .ok title ∧ ownName parts title chain = .ok letters ∧
      d.name = formatName letters := by
  obtain ⟨fuel, before, ends, given⟩ := declares
  obtain ⟨less, rfl, ended⟩ := compileAtEnds ends
  cases ended with
  | array shape held inner type => cases type
  | free shape type => cases type
  | primitive shape type =>
    have other := primitiveNamed type []
    simp [TypeRef.NamedIn] at other
  | @object entries shape held record =>
    cases own : isForeign parts owner entries with
    | true =>
      rw [recordForeign own] at record
      cases record
    | false =>
      obtain ⟨run⟩ := recordEnds own record
      exact ⟨entries, run.title, run.letters, shape, held, own, run.titled, run.named,
        TypeRef.named.inj run.type⟩

theorem declaredName {d : Definition TypeRef}
    (visits : Visits parts owner chain schema path chain' schema')
    (declares : Declares parts owner chain' schema' d) :
    d.name = pathName parts (chain.flatMap (spelling parts)) schema path := by
  obtain ⟨entries, title, letters, shape, held, _, titled, named, name⟩ := declaresRecord declares
  rw [name, pathFormatted, ← visitLetters visits, titleRead shape held titled]
  cases title with
  | some letters' =>
    cases named
    rfl
  | none =>
    rw [chainSpelled named]
    rfl

theorem visitsInside {step : Descent} {c c' : List Node} {s' : Node}
    (call : Descends parts owner chain schema step c)
    (visits : Visits parts owner c step.inner path c' s') :
    Visits parts owner chain schema (step :: path) c' s' := by
  induction visits with
  | here => exact .deeper .here call
  | deeper above call ih => exact .deeper ih call

theorem visitsAbove {step : Descent}
    (visits : Visits parts owner chain schema (path ++ [step]) chain' schema') :
    ∃ c s, Visits parts owner chain schema path c s ∧ Descends parts owner c s step chain' ∧
      schema' = step.inner := by
  generalize whole : path ++ [step] = steps at visits
  cases visits with
  | here => simp at whole
  | deeper above call =>
    obtain ⟨rfl, rfl⟩ := List.append_singleton_inj.mp whole
    exact ⟨_, _, above, call, rfl⟩

theorem lettersThroughItems {start : List Char} {name first : Node} {rest : List Descent}
    (items : ∀ step ∈ rest, ∃ inner, step = .item inner)
    (visits : Visits parts owner chain schema (path ++ .property name first :: rest) chain' schema')
    (untitled : titleOf parts schema' = none) :
    pathLetters parts start schema (path ++ .property name first :: rest) =
      pathLetters parts start schema path ++ spelling parts name := by
  induction rest using List.reverseRecOn generalizing chain' schema' with
  | nil =>
    obtain ⟨_, _, _, _, rfl⟩ := visitsAbove visits
    rw [lettersBelow]
    simp [Descent.inner, Descent.letters, untitled]
  | append_singleton rest step ih =>
    rw [← List.cons_append, ← List.append_assoc] at visits ⊢
    obtain ⟨above, last⟩ := List.forall_mem_append.mp items
    obtain ⟨inner, rfl⟩ := last step List.mem_cons_self
    obtain ⟨c, s, visits, call, rfl⟩ := visitsAbove visits
    cases call with
    | item shape held =>
      rw [lettersBelow, ih above visits (untitledArray shape)]
      simp [Descent.inner, Descent.letters, untitled]

theorem descendsCall {step : Descent} (call : Descends parts owner chain schema step chain') :
    Calls parts owner chain schema chain' step.inner := by
  cases call with
  | item shape held => exact .item shape held
  | property shape held own titled holds member =>
    exact .property shape held own titled holds member

theorem callDescends {inner : Node} (call : Calls parts owner chain schema chain' inner) :
    ∃ step, Descends parts owner chain schema step chain' ∧ step.inner = inner := by
  cases call with
  | item shape held => exact ⟨_, .item shape held, rfl⟩
  | property shape held own titled holds member =>
    exact ⟨_, .property shape held own titled holds member, rfl⟩

theorem recordDeclares {fuel : Nat} {entries : Entries}
    (shape : parts.shape schema = .ok .object) (held : parts.entries schema = .ok entries)
    {d : Definition TypeRef} {before : List (Definition TypeRef)}
    (ends : (record parts (compileAt parts owner fuel) owner chain entries).result =
      .ok (.named d.name))
    (given : (record parts (compileAt parts owner fuel) owner chain entries).given =
      before ++ [d]) : Declares parts owner chain schema d := by
  refine ⟨fuel + 1, before, ?_, ?_⟩
  · simpa only [Ends, compileAt, shape, held, Trail.liftOkBind] using ends
  · simpa only [compileAt, shape, held, Trail.liftOkBind] using given

-- On the fuel. Also a run that fails hands out nothing but what records on some path declare.
theorem handedDeclared {fuel : Nat} {d : Definition TypeRef}
    (handed : d ∈ (compileAt parts owner fuel chain schema).given) :
    ∃ path c s, Visits parts owner chain schema path c s ∧ Declares parts owner c s d := by
  induction fuel generalizing chain schema with
  | zero => simp [compileAt] at handed
  | succ fuel ih =>
    cases handedBy handed with
    | call call inner =>
      obtain ⟨path, c, s, visits, declares⟩ := ih inner
      obtain ⟨step, descent, rfl⟩ := callDescends call
      exact ⟨_, c, s, visitsInside descent visits, declares⟩
    | own shape held own ends run last =>
      have given := run.given
      rw [← last] at given
      exact ⟨[], chain, schema, .here, recordDeclares shape held ends given⟩

def Own (parts : Parts) (owner schema : Node) : Prop :=
  parts.shape schema = .ok .object ∧
    ∃ entries, parts.entries schema = .ok entries ∧ isForeign parts owner entries = false

theorem ownDeclares {fuel : Nat} {t : TypeRef} (own : Own parts owner schema)
    (ends : Ends (compileAt parts owner fuel) chain schema t) :
    ∃ d ∈ (compileAt parts owner fuel chain schema).given, Declares parts owner chain schema d := by
  obtain ⟨shape, entries, held, own⟩ := own
  obtain ⟨less, rfl, ended⟩ := compileAtEnds ends
  obtain ⟨record, given⟩ := endedRecord shape held ended
  obtain ⟨run⟩ := recordEnds own record
  rw [given]
  exact ⟨_, run.last, recordDeclares shape held (run.type ▸ record) run.given⟩

theorem visitsReach (visits : Visits parts owner chain schema path chain' schema') {fuel : Nat}
    {t : TypeRef} (ends : Ends (compileAt parts owner fuel) chain schema t) :
    ∃ less t', Ends (compileAt parts owner less) chain' schema' t' ∧
      (compileAt parts owner less chain' schema').given ⊆
        (compileAt parts owner fuel chain schema).given := by
  induction visits with
  | here => exact ⟨fuel, t, ends, List.Subset.refl _⟩
  | deeper above call ih =>
    obtain ⟨less, t', inner, handed⟩ := ih
    obtain ⟨least, t'', _, last, handed'⟩ := callEnds (descendsCall call) inner
    exact ⟨least, t'', last, List.Subset.trans handed' handed⟩

theorem takeNames {r : Registry} {d : Dialect} {t : Compiled TypeRef} {s : String}
    (ok : (r.take d t).2.result = .ok s) : givenNames t.given ⊆ (r.take d t).1.names := by
  simp only [Registry.take] at ok ⊢
  cases absorbed : (r.absorb (t.mapGiven d.define)).2.result with
  | error fault => simp [absorbed, Except.map] at ok
  | ok reference =>
    obtain ⟨added, _, same, _⟩ := Registry.absorbEnds absorbed
    rw [same]
    intro name member
    obtain ⟨x, handed, rfl⟩ := List.mem_map.mp member
    exact (Registry.namesAddedAll added).1 _ (List.mem_map_of_mem handed)

theorem takeTypes {r : Registry} {d : Dialect} {t : Compiled TypeRef} {x : Spelled}
    (there : x ∈ (r.take d t).1.types) : x ∈ r.types ∨ ∃ y ∈ t.given, x = d.define y := by
  refine (Registry.typesAmong there).symm.imp_right fun handed => ?_
  obtain ⟨y, given, same⟩ := List.mem_map.mp handed
  exact ⟨y, given, same.symm⟩

-- What a compilation registers, whether it returns or not, records on the paths below its schema
-- declare; one that returns registers all of these records.
theorem pathsNameRecords (parts : Parts) (owner : Node) (fuel : Nat) (chain : List Node)
    (schema : Node) (r : Registry) (d : Dialect) :
    (∀ x ∈ (r.take d (compileAt parts owner fuel chain schema)).1.types, x ∈ r.types ∨
      ∃ path c s y, Visits parts owner chain schema path c s ∧ Declares parts owner c s y ∧
        x = d.define y ∧
        x.name = pathName parts (chain.flatMap (spelling parts)) schema path) ∧
    (∀ reference, (r.take d (compileAt parts owner fuel chain schema)).2.result = .ok reference →
      ∀ path c s, Visits parts owner chain schema path c s → Own parts owner s →
        (∃ y, Declares parts owner c s y ∧
          y.name = pathName parts (chain.flatMap (spelling parts)) schema path) ∧
        pathName parts (chain.flatMap (spelling parts)) schema path ∈
          (r.take d (compileAt parts owner fuel chain schema)).1.names) ∧
    ∀ path name first rest outer inner c c' x y,
      Visits parts owner chain schema path c outer → Declares parts owner c outer x →
      Visits parts owner chain schema (path ++ .property name first :: rest) c' inner →
      Declares parts owner c' inner y → (∀ step ∈ rest, ∃ item, step = .item item) →
      titleOf parts inner = none → y.name = x.name ++ formatName (spelling parts name) := by
  refine ⟨fun x there => ?_, fun reference ok path c s visits own => ?_, ?_⟩
  · refine (takeTypes there).imp_right fun ⟨y, handed, same⟩ => ?_
    obtain ⟨path, c, s, visits, declares⟩ := handedDeclared handed
    exact ⟨path, c, s, y, visits, declares, same, same ▸ declaredName visits declares⟩
  · obtain ⟨t, ends⟩ := takeReturns ok
    obtain ⟨less, t', inner, handed⟩ := visitsReach visits ends
    obtain ⟨y, given, declares⟩ := ownDeclares own inner
    have name := declaredName visits declares
    exact ⟨⟨y, declares, name⟩, name ▸ takeNames ok (List.mem_map_of_mem (handed given))⟩
  · intro path name first rest outer inner c c' x y above declares below declares' items untitled
    rw [declaredName below declares', declaredName above declares, pathFormatted, pathFormatted,
      lettersThroughItems items below untitled, formatAppend]

def room : Node := Node.object [("type", .str "object")]

def rowOf (item : Node) : Node := Node.object [("type", .str "array"), ("items", item)]

theorem rowDescends {c : List Node} {s : Node} (holds : Parts.holds [] s = true) :
    Descends [] owner c (rowOf s) (.item s) c := by
  have same : itemSchema [] [(.str "type", .str "array"), (.str "items", s)] = s := by
    simp [itemSchema, Entries.at?, Parts.orElse, holds]
  have call : Descends [] owner c (rowOf s)
      (.item (itemSchema [] [(.str "type", .str "array"), (.str "items", s)])) c := .item rfl rfl
  rwa [same] at call

def floors : Node := rowOf (rowOf room)

def house : Node :=
  Node.object [("type", .str "object"), ("properties", Node.object [("the rooms", floors),
    ("owner", Node.object [("title", .str "Home Owner"), ("properties",
      Node.object [("post-address", Node.object [("type", .str "object")])])])])]

def houseChain : List Node := [.str "Create House", .str "Params"]

def toRoom : List Descent := [.property (.str "the rooms") floors, .item (rowOf room), .item room]

theorem houseNames :
    ((Registry.empty true).take .python
      (compileAt [] (.str "House") 9 houseChain house)).1.names =
        ["CreateHouseParamstherooms", "HomeOwnerpostaddress", "HomeOwner", "CreateHouseParams"] ∧
    (∀ x ∈ ((Registry.empty true).take .python
        (compileAt [] (.str "House") 9 houseChain house)).1.types,
      ∃ path c s y, Visits [] (.str "House") houseChain house path c s ∧
        Declares [] (.str "House") c s y ∧ x = Dialect.python.define y ∧
        x.name = pathName [] (houseChain.flatMap (spelling [])) house path) ∧
    ∃ x y, Declares [] (.str "House") houseChain house x ∧
      Declares [] (.str "House") (houseChain ++ [.str "the rooms"]) room y ∧
      y.name = x.name ++ formatName "the rooms".toList ∧
      y.name = "CreateHouseParamstherooms" := by
  obtain ⟨named, registered, below⟩ :=
    pathsNameRecords [] (.str "House") 9 houseChain house (Registry.empty true) .python
  have ok : ((Registry.empty true).take .python
      (compileAt [] (.str "House") 9 houseChain house)).2.result = .ok "CreateHouseParams" := by
    decide +kernel
  have visits : Visits [] (.str "House") houseChain house toRoom
      (houseChain ++ [.str "the rooms"]) room := by
    have property : Descends [] (.str "House") houseChain house
        (.property (.str "the rooms") floors) (innerChain none houseChain ++ [.str "the rooms"]) :=
      .property rfl rfl rfl rfl rfl List.mem_cons_self
    exact .deeper (.deeper (.deeper .here property) (rowDescends rfl)) (rowDescends rfl)
  obtain ⟨⟨x, declares, _⟩, _⟩ := registered _ ok [] _ _ .here ⟨rfl, _, rfl, rfl⟩
  obtain ⟨⟨y, declares', name⟩, _⟩ := registered _ ok _ _ _ visits ⟨rfl, _, rfl, rfl⟩
  have items : ∀ step ∈ [Descent.item (rowOf room), .item room], ∃ item, step = .item item := by
    simp
  refine ⟨by decide +kernel, fun x there => (named x there).resolve_left (by simp [Registry.empty]),
    x, y, declares, declares', ?_, name.trans (by decide +kernel)⟩
  exact below [] (.str "the rooms") floors _ house room _ _ x y .here declares visits declares'
    items rfl

end Compile
end ClientGen
