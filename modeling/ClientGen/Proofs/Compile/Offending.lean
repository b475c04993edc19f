import ClientGen.Proofs.Compile.Paths

/-! Which schemas compile. A schema offends by a reference that is left in it, by a type that is
none of the known ones, and, where it is an object without a title, by a chain that is no text. A
readable schema comes to a type if nothing in it that is compiled offends. Otherwise the first that
does, the outer before the inner and properties as they are declared, tells how the compilation
fails. -/
namespace ClientGen
namespace Compile
open Relation

section Offending

variable (parts : Parts) (owner : Node)

structure Readable (entries : Entries) : Prop where
  title : parts.holds ((Entries.at? "title" entries).getD .null) = true →
    ∃ text, parts.view ((Entries.at? "title" entries).getD .null) = .str text
  required : parts.holds ((Entries.at? "required" entries).getD .null) = true →
    ∃ keys, parts.view ((Entries.at? "required" entries).getD .null) = .list keys ∧
      ∀ key ∈ keys, ∃ text, parts.view key = .str text
  properties : parts.holds ((Entries.at? "properties" entries).getD .null) = true →
    ∃ table, parts.view ((Entries.at? "properties" entries).getD .null) = .map table

inductive Tree : Node → Prop
  | node {schema entries} (shown : parts.view schema = .map entries)
      (readable : Readable parts entries)
      (inner : ∀ s, Opens parts owner schema s → Tree s) : Tree schema

def kinds : List String := ["string", "number", "boolean"]

structure Fine (chain : List Node) (schema : Node) : Prop where
  plain : parts.isReference schema = false
  kind : ∀ kind, parts.shape schema = .ok (.primitive kind) →
    ∃ name ∈ kinds, parts.view kind = .str name
  named : Own parts owner schema → titleOf parts schema = none → spelled parts chain = true

def Sound (chain : List Node) (schema : Node) : Prop :=
  ∀ c s, Reaches parts owner chain schema c s → Fine parts owner c s

def Lettered (schema : Node) : Prop :=
  ∀ s, ReflTransGen (Opens parts owner) schema s → ∀ entries properties,
    parts.entries s = .ok entries → Compile.properties parts entries = .ok properties →
      ∀ p ∈ properties, ∃ text, parts.view p.1 = .str text

inductive Offends (chain : List Node) (schema : Node) : Fault → Prop
  | reference {entries target} (shown : parts.view schema = .map entries)
      (found : Entries.at? "$ref" entries = some target)
      (short : parts.holds target = true → (parts.close target).writable = true) :
      Offends chain schema
        (.unexpectedReference (if parts.holds target then parts.plainText target else ""))
  | longReference {entries target} (shown : parts.view schema = .map entries)
      (found : Entries.at? "$ref" entries = some target) (holds : parts.holds target = true)
      (long : (parts.close target).writable = false) : Offends chain schema .longInteger
  | kind {kind} (shape : parts.shape schema = .ok (.primitive kind))
      (other : ∀ name ∈ kinds, parts.view kind ≠ .str name)
      (short : (parts.close kind).writable = true) :
      Offends chain schema (.unsupportedType (parts.quotedText kind))
  | longKind {kind} (shape : parts.shape schema = .ok (.primitive kind))
      (other : ∀ name ∈ kinds, parts.view kind ≠ .str name)
      (long : (parts.close kind).writable = false) : Offends chain schema .longInteger
  | unnamed (own : Own parts owner schema) (untitled : titleOf parts schema = none)
      (unspelled : spelled parts chain = false) : Offends chain schema .wrongKind

inductive First : List Node → Node → List Node → Node → Prop
  | here {chain schema} : First chain schema chain schema
  | item {chain schema entries c s} (shape : parts.shape schema = .ok .array)
      (held : parts.entries schema = .ok entries)
      (rest : First chain (itemSchema parts entries) c s) : First chain schema c s
  | property {chain schema entries title before name inner after c s}
      (shape : parts.shape schema = .ok .object) (held : parts.entries schema = .ok entries)
      (own : isForeign parts owner entries = false) (fine : Fine parts owner chain schema)
      (titled : titleName parts entries = .ok title)
      (declared : Compile.properties parts entries = .ok (before ++ (name, inner) :: after))
      (sound : ∀ p ∈ before, Sound parts owner (innerChain title chain ++ [p.1]) p.2)
      (rest : First (innerChain title chain ++ [name]) inner c s) : First chain schema c s

end Offending

variable {parts : Parts} {owner : Node} {chain : List Node} {schema : Node} {entries : Entries}

theorem treeAcyclic (tree : Tree parts owner schema) : ¬ Cyclic (Opens parts owner) schema := by
  refine accAcyclic ?_
  induction tree with
  | node _ _ _ ih => exact .intro _ ih

theorem compileLayer (acyclic : ¬ Cyclic (Opens parts owner) schema) (chain : List Node) :
    ∃ fuel, parts.compile owner chain schema = compileAt parts owner (fuel + 1) chain schema ∧
      ∀ c s, Calls parts owner chain schema c s →
        compileAt parts owner fuel c s = parts.compile owner c s := by
  have few : {s | Opens parts owner schema s}.Finite :=
    (opensFew schema).subset fun s step => .single step
  obtain ⟨enough, most⟩ := (few.image parts.depth).bddAbove
  have inner c s (call : Calls parts owner chain schema c s) :
      compileAt parts owner enough c s = parts.compile owner c s ∧
        (compileAt parts owner enough c s).Settles := by
    have step := callOpens call
    have settles : (parts.compile owner c s).Settles :=
      acyclicSettles (fun ⟨n, way, loop⟩ => acyclic ⟨n, .head step way, loop⟩) c
    have same : compileAt parts owner enough c s = parts.compile owner c s :=
      settledMore settles (most (Set.mem_image_of_mem _ step))
    exact ⟨same, same ▸ settles⟩
  exact ⟨enough, compileSettled (callsSettle fun c s call => (inner c s call).2),
    fun c s call => (inner c s call).1⟩

theorem refusedFirst {fault : Fault} (refused : parts.refuseReference schema = .error fault) :
    (parts.compile owner chain schema).result = .error fault := by
  have shape : parts.shape schema = .error fault := by
    rw [Parts.shape, refused]
    rfl
  simp only [Parts.compile, Parts.depth, compileAt, shape]
  rfl

theorem acceptedPlain (plain : parts.isReference schema = false) :
    parts.refuseReference schema = .ok schema := by
  unfold Parts.isReference at plain
  unfold Parts.refuseReference
  split at plain
  · rename_i entries shown
    rw [Entries.has, Option.isSome_eq_false_iff, Option.isNone_iff_eq_none] at plain
    simp only [plain]
  · rfl

theorem shapePlain (shown : parts.view schema = .map entries)
    (plain : parts.isReference schema = false) :
    parts.shape schema = .ok (Shape.ofEntries parts entries) := by
  rw [Parts.shape, acceptedPlain plain]
  simp only [Parts.entriesShown shown, bind, Except.bind, pure, Except.pure]

theorem titleReads (readable : Readable parts entries) :
    ∃ title, titleName parts entries = .ok title := by
  unfold titleName
  dsimp only
  split
  · rename_i holds
    obtain ⟨text, shown⟩ := readable.title holds
    exact ⟨_, by simp only [nameText, shown]; rfl⟩
  · exact ⟨none, rfl⟩

theorem requiredReads (readable : Readable parts entries) :
    ∃ required, requiredKeys parts entries = .ok required := by
  unfold requiredKeys
  dsimp only
  split
  · rename_i holds
    obtain ⟨keys, shown, texts⟩ := readable.required holds
    have usable : (keys.map parts.view).all Node.hashable = true := by
      rw [List.all_map, List.all_eq_true]
      intro key member
      obtain ⟨text, same⟩ := texts key member
      simp [same, Node.hashable]
    refine ⟨keys.map parts.view, ?_⟩
    simp only [Parts.items, shown, bind, Except.bind, usable, ↓reduceIte]
    rfl
  · exact ⟨[], rfl⟩

theorem propertiesRead (readable : Readable parts entries) :
    ∃ properties, Compile.properties parts entries = .ok properties := by
  unfold Compile.properties Parts.orElse
  split
  · rename_i holds
    obtain ⟨table, shown⟩ := readable.properties holds
    exact ⟨table, Parts.entriesShown shown⟩
  · exact ⟨[], rfl⟩

section Fields

variable {compile : List Node → Node → Compiled TypeRef} {required : List Node}

structure Passes (parts : Parts) (compile : List Node → Node → Compiled TypeRef)
    (chain : List Node) (property : Node × Node) : Prop where
  accepted : parts.refuseReference property.2 = .ok property.2
  returns : ∃ t, Ends compile (chain ++ [property.1]) property.2 t
  described : ∃ text, parts.field property.2 "description" = .ok text

theorem fieldsPassed {before rest : List (Node × Node)}
    (each : ∀ p ∈ before, Passes parts compile chain p) :
    ∃ fs, (fields parts compile chain required (before ++ rest)).result =
      (fields parts compile chain required rest).result.map (fs ++ ·) := by
  induction before with
  | nil =>
    refine ⟨[], ?_⟩
    rw [List.nil_append]
    cases (fields parts compile chain required rest).result <;> rfl
  | cons property before ih =>
    obtain ⟨name, schema⟩ := property
    obtain ⟨here, later⟩ := List.forall_mem_cons.mp each
    obtain ⟨fs, same⟩ := ih later
    obtain ⟨type, returns⟩ := here.returns
    obtain ⟨text, described⟩ := here.described
    have accepted := here.accepted
    simp only at returns described accepted
    rw [List.cons_append, fields]
    simp only [accepted, described, Trail.liftOkBind, Trail.bindResult _ returns]
    refine ⟨?_ :: fs, ?_⟩
    · exact ⟨name, type, !required.any fun k => name.same k, parts.close text, true⟩
    · cases ended : (fields parts compile chain required rest).result with
      | error fault =>
        rw [ended] at same
        rw [Trail.bindFails _ same]
        rfl
      | ok gs =>
        rw [ended] at same
        rw [Trail.bindResult _ same]
        rfl

theorem fieldsReturn {properties : List (Node × Node)}
    (each : ∀ p ∈ properties, Passes parts compile chain p) :
    ∃ fs, (fields parts compile chain required properties).result = .ok fs := by
  obtain ⟨fs, same⟩ := @fieldsPassed _ _ compile required properties [] each
  rw [List.append_nil] at same
  exact ⟨_, same⟩

theorem fieldsFail {before after : List (Node × Node)} {name inner : Node} {fault : Fault}
    (each : ∀ p ∈ before, Passes parts compile chain p)
    (refused : ∀ other, parts.refuseReference inner = .error other → other = fault)
    (fails : (compile (chain ++ [name]) inner).result = .error fault) :
    (fields parts compile chain required (before ++ (name, inner) :: after)).result =
      .error fault := by
  obtain ⟨fs, same⟩ := @fieldsPassed _ _ compile required before ((name, inner) :: after) each
  have first : (fields parts compile chain required ((name, inner) :: after)).result =
      .error fault := by
    rw [fields]
    cases accepted : parts.refuseReference inner with
    | error other => rw [refused other accepted, Trail.liftErrorBind, Trail.failResult]
    | ok inner' =>
      cases Parts.refuseReferenceSame accepted
      rw [Trail.liftOkBind, Trail.bindFails _ fails]
  rw [same, first]
  rfl

end Fields

theorem Sound.here (sound : Sound parts owner chain schema) : Fine parts owner chain schema :=
  sound _ _ (.here _ _)

theorem Sound.inside {c : List Node} {s : Node} (sound : Sound parts owner chain schema)
    (call : Calls parts owner chain schema c s) : Sound parts owner c s :=
  fun c' s' reach => sound c' s' (.inside call reach)

theorem soundIff : Sound parts owner chain schema ↔ Fine parts owner chain schema ∧
    ∀ c s, Calls parts owner chain schema c s → Sound parts owner c s := by
  refine ⟨fun sound => ⟨sound.here, fun c s call => sound.inside call⟩, ?_⟩
  rintro ⟨fine, inner⟩ c s reach
  cases reach with
  | here => exact fine
  | inside call rest => exact inner _ _ call _ _ rest

theorem Tree.read (tree : Tree parts owner schema) : ∃ entries,
    parts.view schema = .map entries ∧ Readable parts entries := by
  cases tree with
  | node shown readable => exact ⟨_, shown, readable⟩

theorem Tree.inside {c : List Node} {s : Node} (tree : Tree parts owner schema)
    (call : Calls parts owner chain schema c s) : Tree parts owner s := by
  cases tree with
  | node _ _ inner => exact inner s (callOpens call)

theorem fineName {title : Option (List Char)} (fine : Fine parts owner chain schema)
    (shape : parts.shape schema = .ok .object) (held : parts.entries schema = .ok entries)
    (own : isForeign parts owner entries = false) (titled : titleName parts entries = .ok title) :
    ∃ letters, ownName parts title chain = .ok letters := by
  cases title with
  | some letters => exact ⟨letters, rfl⟩
  | none =>
    exact spelledText (fine.named ⟨shape, entries, held, own⟩ (titleRead shape held titled))

theorem fineKind {kind : Node} (fine : Fine parts owner chain schema)
    (shape : parts.shape schema = .ok (.primitive kind)) : ∃ t, primitive parts kind = .ok t := by
  obtain ⟨name, known, shown⟩ := fine.kind kind shape
  simp only [kinds, List.mem_cons, List.not_mem_nil, or_false] at known
  unfold primitive
  rcases known with rfl | rfl | rfl <;> exact ⟨_, by rw [shown]; rfl⟩

theorem soundPasses {compile : List Node → Node → Compiled TypeRef} {p : Node × Node}
    (tree : Tree parts owner p.2) (sound : Sound parts owner (chain ++ [p.1]) p.2) {t : TypeRef}
    (returns : Ends compile (chain ++ [p.1]) p.2 t) : Passes parts compile chain p := by
  obtain ⟨entries, shown, _⟩ := tree.read
  refine ⟨acceptedPlain sound.here.plain, ⟨t, returns⟩, ?_⟩
  simp only [Parts.field, shown]
  exact ⟨_, rfl⟩

theorem soundReturns (tree : Tree parts owner schema) (sound : Sound parts owner chain schema) :
    ∃ t, Ends (parts.compile owner) chain schema t := by
  have acyclic := treeAcyclic tree
  induction tree generalizing chain with
  | @node schema entries shown readable inner ih =>
    have ih c s (call : Calls parts owner chain schema c s) :
        ∃ t, Ends (parts.compile owner) c s t :=
      ih s (callOpens call) (sound.inside call) (treeAcyclic (inner s (callOpens call)))
    obtain ⟨fuel, same, within⟩ := compileLayer acyclic chain
    have held := Parts.entriesShown shown
    have shape := shapePlain shown sound.here.plain
    simp only [Ends, same, compileAt, shape, held, Trail.liftOkBind]
    cases kind : Shape.ofEntries parts entries with
    | array =>
      rw [kind] at shape
      have call : Calls parts owner chain schema chain (itemSchema parts entries) :=
        .item shape held
      obtain ⟨t, returns⟩ := ih _ _ call
      rw [Ends, ← within _ _ call] at returns
      simp only [acceptedPlain (sound.inside call).here.plain, Trail.liftOkBind,
        Trail.bindResult _ returns]
      exact ⟨_, rfl⟩
    | object =>
      rw [kind] at shape
      cases own : isForeign parts owner entries with
      | true => exact ⟨_, by rw [recordForeign own]; rfl⟩
      | false =>
        obtain ⟨title, titled⟩ := titleReads readable
        obtain ⟨letters, named⟩ := fineName sound.here shape held own titled
        obtain ⟨required, requires⟩ := requiredReads readable
        obtain ⟨properties, holds⟩ := propertiesRead readable
        have each : ∀ p ∈ properties,
            Passes parts (compileAt parts owner fuel) (innerChain title chain) p := by
          intro p member
          have call : Calls parts owner chain schema (innerChain title chain ++ [p.1]) p.2 :=
            .property shape held own titled holds member
          obtain ⟨t, returns⟩ := ih _ _ call
          rw [Ends, ← within _ _ call] at returns
          exact soundPasses (inner _ (callOpens call)) (sound.inside call) returns
        obtain ⟨fs, ended⟩ := @fieldsReturn _ _ _ required _ each
        dsimp only
        rw [recordFields own titled named requires holds, Trail.bindResult _ ended]
        exact ⟨_, rfl⟩
    | union | any => exact ⟨_, rfl⟩
    | primitive kind' =>
      rw [kind] at shape
      exact fineKind sound.here shape

theorem unexpectedSpelled (target : Node) : parts.unexpected target =
    if parts.holds target = true ∧ (parts.close target).writable = false then .longInteger
    else .unexpectedReference (if parts.holds target then parts.plainText target else "") := by
  unfold Parts.unexpected
  cases parts.holds target <;> cases (parts.close target).writable <;> simp

theorem referenceTold {target : Node} (shown : parts.view schema = .map entries)
    (found : Entries.at? "$ref" entries = some target) :
    (parts.compile owner chain schema).result = .error (parts.unexpected target) :=
  refusedFirst (by simp only [Parts.refuseReference, shown, found])

theorem kindTold {kind : Node} (shape : parts.shape schema = .ok (.primitive kind))
    (other : ∀ name ∈ kinds, parts.view kind ≠ .str name) :
    (parts.compile owner chain schema).result = .error (unsupported parts kind) := by
  obtain ⟨entries, shown⟩ : ∃ entries, parts.view schema = .map entries := by
    by_contra none
    simp [Parts.shapeOther fun entries shown => none ⟨entries, shown⟩] at shape
  simp only [Parts.compile, Parts.depth, compileAt, shape, Parts.entriesShown shown,
    Trail.liftOkBind, Trail.liftResult]
  unfold primitive
  split <;> simp_all [kinds]

theorem offenceTold {fault : Fault} (tree : Tree parts owner schema)
    (offends : Offends parts owner chain schema fault) :
    (parts.compile owner chain schema).result = .error fault := by
  cases offends with
  | reference shown found short =>
    rw [referenceTold shown found, unexpectedSpelled, if_neg]
    rintro ⟨holds, long⟩
    simp [short holds] at long
  | longReference shown found holds long =>
    rw [referenceTold shown found, unexpectedSpelled, if_pos ⟨holds, long⟩]
  | kind shape other short => rw [kindTold shape other, unsupported, if_pos short]
  | longKind shape other long => rw [kindTold shape other, unsupported, if_neg (by simp [long])]
  | unnamed own untitled unspelled =>
    obtain ⟨shape, entries, held, own⟩ := own
    obtain ⟨entries', shown, readable⟩ := tree.read
    cases held.symm.trans (Parts.entriesShown shown)
    obtain ⟨title, titled⟩ := titleReads readable
    cases (titleRead shape held titled).symm.trans untitled
    simp only [Parts.compile, Parts.depth, compileAt, shape, held, Trail.liftOkBind, record, own,
      Bool.false_eq_true, ↓reduceIte, titled, ownName, unspelledText unspelled,
      Trail.liftErrorBind, Trail.failResult]

theorem firstTold {c : List Node} {s : Node} {fault : Fault}
    (first : First parts owner chain schema c s) (tree : Tree parts owner schema)
    (offends : Offends parts owner c s fault) :
    (parts.compile owner chain schema).result = .error fault := by
  induction first with
  | here => exact offenceTold tree offends
  | @item chain schema entries c s shape held rest ih =>
    obtain ⟨fuel, same, within⟩ := compileLayer (treeAcyclic tree) chain
    have call : Calls parts owner chain schema chain (itemSchema parts entries) := .item shape held
    have fails := ih (tree.inside call) offends
    simp only [same, compileAt, shape, held, Trail.liftOkBind]
    cases accepted : parts.refuseReference (itemSchema parts entries) with
    | error other =>
      cases (refusedFirst accepted).symm.trans fails
      rfl
    | ok items =>
      cases Parts.refuseReferenceSame accepted
      rw [← within _ _ call] at fails
      rw [Trail.liftOkBind, Trail.bindFails _ fails]
  | @property chain schema entries title before name inner after c s shape held own fine titled
      declared sound rest ih =>
    obtain ⟨fuel, same, within⟩ := compileLayer (treeAcyclic tree) chain
    have calls (p : Node × Node) (member : p ∈ before ++ (name, inner) :: after) :
        Calls parts owner chain schema (innerChain title chain ++ [p.1]) p.2 :=
      .property shape held own titled declared member
    have here := calls (name, inner) (by simp)
    have fails := ih (tree.inside here) offends
    have each : ∀ p ∈ before,
        Passes parts (compileAt parts owner fuel) (innerChain title chain) p := by
      intro p member
      have call := calls p (List.mem_append_left _ member)
      obtain ⟨t, returns⟩ := soundReturns (tree.inside call) (sound p member)
      rw [Ends, ← within _ _ call] at returns
      exact soundPasses (tree.inside call) (sound p member) returns
    have refused other (refused : parts.refuseReference inner = .error other) : other = fault :=
      Except.error.inj ((refusedFirst refused).symm.trans fails)
    obtain ⟨letters, named⟩ := fineName fine shape held own titled
    obtain ⟨entries', shown, readable⟩ := tree.read
    cases held.symm.trans (Parts.entriesShown shown)
    obtain ⟨required, requires⟩ := requiredReads readable
    rw [← within _ _ here] at fails
    simp only [same, compileAt, shape, held, Trail.liftOkBind]
    rw [recordFields own titled named requires declared,
      Trail.bindFails _ (fieldsFail each refused fails)]

theorem offenceFound (tree : Tree parts owner schema) (other : ¬ Fine parts owner chain schema) :
    ∃ fault, Offends parts owner chain schema fault := by
  obtain ⟨entries, shown, _⟩ := tree.read
  by_contra none
  push Not at none
  refine other ⟨?_, fun kind shape => ?_, fun own untitled => ?_⟩
  · rw [← Bool.not_eq_true]
    intro reference
    simp only [Parts.isReference, shown, Entries.has, Option.isSome_iff_exists] at reference
    obtain ⟨target, found⟩ := reference
    by_cases long : parts.holds target = true ∧ (parts.close target).writable = false
    · exact none _ (.longReference shown found long.1 long.2)
    · exact none _ (.reference shown found (by simpa using long))
  · by_contra unknown
    push Not at unknown
    cases short : (parts.close kind).writable with
    | true => exact none _ (.kind shape unknown short)
    | false => exact none _ (.longKind shape unknown short)
  · by_contra unspelled
    exact none _ (.unnamed own untitled (by simpa using unspelled))

theorem firstFound (tree : Tree parts owner schema) (unsound : ¬ Sound parts owner chain schema) :
    ∃ c s fault, First parts owner chain schema c s ∧ Offends parts owner c s fault := by
  classical
  induction tree generalizing chain with
  | @node schema entries shown readable inner ih =>
    by_cases fine : Fine parts owner chain schema
    · rw [soundIff] at unsound
      push Not at unsound
      obtain ⟨c, s, call, unsound⟩ := unsound fine
      cases call with
      | item shape held =>
        obtain ⟨c, s, fault, first, offends⟩ := ih _ (.item shape held) unsound
        exact ⟨c, s, fault, .item shape held first, offends⟩
      | @property _ title properties _ _ shape held own titled holds member =>
        obtain ⟨⟨name, s⟩, found⟩ : ∃ p, properties.find? (fun p =>
            !decide (Sound parts owner (innerChain title chain ++ [p.1]) p.2)) = some p := by
          refine Option.isSome_iff_exists.mp (List.find?_isSome.mpr ⟨_, member, ?_⟩)
          simpa using unsound
        obtain ⟨unsound, before, after, rfl, sound⟩ := List.find?_eq_some_iff_append.mp found
        have step : Opens parts owner schema s :=
          .property shape held own holds (List.mem_append_right _ List.mem_cons_self)
        obtain ⟨c, s', fault, first, offends⟩ := ih s step (by simpa using unsound)
        exact ⟨c, s', fault, .property shape held own fine titled holds
          (fun p member => by simpa using sound p member) first, offends⟩
    · obtain ⟨fault, offends⟩ := offenceFound (.node shown readable inner) fine
      exact ⟨chain, schema, fault, .here, offends⟩

theorem Lettered.inside {c : List Node} {s : Node} (lettered : Lettered parts owner schema)
    (call : Calls parts owner chain schema c s) : Lettered parts owner s :=
  fun s' way => lettered s' (.head (callOpens call) way)

theorem callSpelled {c : List Node} {s : Node} (lettered : Lettered parts owner schema)
    (texts : spelled parts chain = true) (call : Calls parts owner chain schema c s) :
    spelled parts c = true := by
  cases call with
  | item shape held => exact texts
  | @property entries title properties name s shape held own titled holds member =>
    have inner : spelled parts (innerChain title chain) = true := by
      cases title with
      | none => exact texts
      | some letters => rfl
    obtain ⟨text, shown⟩ := lettered schema .refl entries properties held holds _ member
    simp only [spelled, List.all_append, Bool.and_eq_true] at inner ⊢
    exact ⟨inner, by simp [shown, Node.text?]⟩

theorem reachSpelled {c : List Node} {s : Node}
    (reach : Reaches parts owner chain schema c s) (lettered : Lettered parts owner schema)
    (texts : spelled parts chain = true) : spelled parts c = true := by
  induction reach with
  | here => exact texts
  | inside call rest ih => exact ih (lettered.inside call) (callSpelled lettered texts call)

theorem firstReached {c : List Node} {s : Node} (first : First parts owner chain schema c s) :
    Reaches parts owner chain schema c s := by
  induction first with
  | here => exact .here _ _
  | item shape held rest ih => exact .inside (.item shape held) ih
  | property shape held own fine titled declared sound rest ih =>
    refine .inside (.property shape held own titled declared ?_) ih
    exact List.mem_append_right _ List.mem_cons_self

theorem offenceKinds {fault : Fault} (texts : spelled parts chain = true)
    (offends : Offends parts owner chain schema fault) :
    (∃ target, fault = .unexpectedReference target) ∨ (∃ shown, fault = .unsupportedType shown) ∨
      fault = .longInteger := by
  cases offends with
  | reference => exact .inl ⟨_, rfl⟩
  | kind => exact .inr (.inl ⟨_, rfl⟩)
  | longReference | longKind => exact .inr (.inr rfl)
  | unnamed own untitled unspelled => simp [texts] at unspelled

theorem endsOrOffends (tree : Tree parts owner schema) (chain : List Node) :
    ((∃ t, Ends (parts.compile owner) chain schema t) ↔ Sound parts owner chain schema) ∧
    ∀ fault, (parts.compile owner chain schema).result = .error fault ↔
      ∃ c s, First parts owner chain schema c s ∧ Offends parts owner c s fault := by
  constructor
  · refine ⟨fun ⟨t, returns⟩ => ?_, soundReturns tree⟩
    by_contra unsound
    obtain ⟨c, s, fault, first, offends⟩ := firstFound tree unsound
    cases (firstTold first tree offends).symm.trans returns
  · refine fun fault => ⟨fun failed => ?_,
      fun ⟨c, s, first, offends⟩ => firstTold first tree offends⟩
    have unsound : ¬ Sound parts owner chain schema := by
      intro sound
      obtain ⟨t, returns⟩ := soundReturns tree sound
      cases returns.symm.trans failed
    obtain ⟨c, s, other, first, offends⟩ := firstFound tree unsound
    cases (firstTold first tree offends).symm.trans failed
    exact ⟨c, s, first, offends⟩

theorem compilesUnlessOffended {r : Registry} (lax : r.strict = false)
    (tree : Tree parts owner schema) (chain : List Node) (d : Dialect) :
    ((∃ reference, (r.take d (parts.compile owner chain schema)).2.result = .ok reference) ↔
      ∀ c s, Reaches parts owner chain schema c s → Fine parts owner c s) ∧
    (∀ fault, (r.take d (parts.compile owner chain schema)).2.result = .error fault ↔
      ∃ c s, First parts owner chain schema c s ∧ Offends parts owner c s fault) ∧
    (Lettered parts owner schema → spelled parts chain = true →
      (∀ c s, Reaches parts owner chain schema c s → (Fine parts owner c s ↔
        parts.isReference s = false ∧ ∀ kind, parts.shape s = .ok (.primitive kind) →
          ∃ name ∈ kinds, parts.view kind = .str name)) ∧
      ∀ fault, (r.take d (parts.compile owner chain schema)).2.result = .error fault →
        (∃ target, fault = .unexpectedReference target) ∨
          (∃ shown, fault = .unsupportedType shown) ∨ fault = .longInteger) := by
  obtain ⟨returns, fails⟩ := endsOrOffends tree chain
  have told fault : (r.take d (parts.compile owner chain schema)).2.result = .error fault ↔
      (parts.compile owner chain schema).result = .error fault := by
    rw [Registry.takeLax lax]
    cases (parts.compile owner chain schema).result <;> simp [Except.map]
  have given : (∃ reference, (r.take d (parts.compile owner chain schema)).2.result =
      .ok reference) ↔ ∃ t, Ends (parts.compile owner) chain schema t := by
    rw [Registry.takeLax lax]
    unfold Ends
    cases (parts.compile owner chain schema).result <;> simp [Except.map]
  refine ⟨given.trans returns, fun fault => (told fault).trans (fails fault), ?_⟩
  intro lettered texts
  refine ⟨fun c s reach => ?_, fun fault failed => ?_⟩
  · exact ⟨fun fine => ⟨fine.plain, fine.kind⟩,
      fun ⟨plain, kind⟩ => ⟨plain, kind, fun _ _ => reachSpelled reach lettered texts⟩⟩
  · obtain ⟨c, s, first, offends⟩ := (fails fault).mp ((told fault).mp failed)
    exact offenceKinds (reachSpelled (firstReached first) lettered texts) offends

theorem leafTree (shown : parts.view schema = .map entries) (readable : Readable parts entries)
    (array : parts.shape schema ≠ .ok .array) (object : parts.shape schema ≠ .ok .object) :
    Tree parts owner schema := by
  refine .node shown readable fun s step => ?_
  cases step with
  | item shape => exact absurd shape array
  | property shape => exact absurd shape object

def visit : Node :=
  Node.object [("properties", Node.object [("day", Node.object [("type", .str "calendar")]),
    ("pet", Node.object [("$ref", .str "#/Pet")])])]

theorem visitTree : Tree [] (.str "Visit") visit := by
  refine .node rfl ⟨nofun, nofun, fun _ => ⟨_, rfl⟩⟩ fun s step => ?_
  cases step with
  | item shape => cases shape
  | @property entries properties name inner shape held own holds member =>
    cases held
    cases holds
    simp only [Node.object, List.map_cons, List.map_nil, List.mem_cons, Prod.mk.injEq,
      List.not_mem_nil, or_false] at member
    obtain ⟨-, rfl⟩ | ⟨-, rfl⟩ := member
    · exact leafTree rfl ⟨nofun, nofun, nofun⟩ nofun nofun
    · exact leafTree rfl ⟨nofun, nofun, nofun⟩ nofun nofun

theorem visitOffends :
    Tree [] (.str "Visit") visit ∧ (Registry.empty false).strict = false ∧
    ((Registry.empty false).take .python
      (Parts.compile [] (.str "Visit") [.str "Visit"] visit)).2.result =
        .error (.unsupportedType "'calendar'") ∧
    (¬ ∀ c s, Reaches [] (.str "Visit") [.str "Visit"] visit c s → Fine [] (.str "Visit") c s) ∧
    ∃ c s, First [] (.str "Visit") [.str "Visit"] visit c s ∧
      Offends [] (.str "Visit") c s (.unsupportedType "'calendar'") := by
  have told : ((Registry.empty false).take .python
      (Parts.compile [] (.str "Visit") [.str "Visit"] visit)).2.result =
        .error (.unsupportedType "'calendar'") := by decide +kernel
  obtain ⟨returns, fails, _⟩ := @compilesUnlessOffended [] (.str "Visit") visit
    (Registry.empty false) rfl visitTree [.str "Visit"] .python
  refine ⟨visitTree, rfl, told, fun fine => ?_, (fails _).mp told⟩
  obtain ⟨reference, ok⟩ := returns.mpr fine
  rw [told] at ok
  cases ok

def untoldKind : Node := Node.object [("type", .int (.ofNat (Nat.pow 10 4300)))]

theorem untoldRefused : Tree [] (.str "Pet") untoldKind ∧
    ((Registry.empty false).take .typescript
      (Parts.compile [] (.str "Pet") [.str "Pet"] untoldKind)).2.result = .error .longInteger ∧
    (∀ target, Fault.longInteger ≠ .unexpectedReference target) ∧
    ∀ shown, Fault.longInteger ≠ .unsupportedType shown := by
  have readable : Readable [] [(.str "type", .int (.ofNat (Nat.pow 10 4300)))] :=
    ⟨nofun, nofun, nofun⟩
  exact ⟨leafTree rfl readable nofun nofun, by decide +kernel, nofun, nofun⟩

end Compile
end ClientGen
