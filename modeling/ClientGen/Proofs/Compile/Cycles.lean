import ClientGen.Proofs.Compile.Enough
import ClientGen.Proofs.Fault.Ending
import ClientGen.Proofs.Node.Cycles
import ClientGen.Proofs.Node.Formed
import ClientGen.Proofs.Registry.Taking

/-! Which compilations end. A schema opens the items of an array and the properties of an object that
does not carry the name of another component; nothing else of it is compiled. If a schema does not
open, at any depth, into a cycle, then its compilation ends with a reference or for a reason that is
told; if it does, no fuel brings it to a reference. -/
namespace ClientGen
namespace Compile
open Relation

variable {parts : Parts} {owner : Node}

-- The schemas that a schema opens: the items of an array, and the properties of an object unless it
-- carries the name of another component.
inductive Opens (parts : Parts) (owner schema : Node) : Node → Prop
  | item {entries} (shape : parts.shape schema = .ok .array)
      (held : parts.entries schema = .ok entries) :
      Opens parts owner schema (itemSchema parts entries)
  | property {entries properties name inner} (shape : parts.shape schema = .ok .object)
      (held : parts.entries schema = .ok entries) (own : isForeign parts owner entries = false)
      (holds : Compile.properties parts entries = .ok properties)
      (member : (name, inner) ∈ properties) : Opens parts owner schema inner

theorem callOpens {chain c : List Node} {schema s : Node}
    (call : Calls parts owner chain schema c s) : Opens parts owner schema s := by
  cases call with
  | item shape held => exact .item shape held
  | property shape held own _ holds member => exact .property shape held own holds member

theorem valueInside {n v : Node} {es : Entries} {key : String} (shown : parts.view n = .map es)
    (found : Entries.at? key es = some v) : parts.Inside n v := by
  obtain ⟨k, member⟩ := valueMember found
  rw [Parts.Inside, shown]
  exact List.mem_map_of_mem member

theorem opensInside {schema s : Node} (step : Opens parts owner schema s) :
    TransGen parts.Inside schema s ∨ s = .map [] := by
  cases step with
  | @item entries shape held =>
    unfold itemSchema Parts.orElse
    split
    · cases found : Entries.at? "items" entries with
      | none => rename_i holds; simp [found, Parts.holds, Parts.view, Node.holds] at holds
      | some v => exact .inl (.single (valueInside (Parts.entriesView held) found))
    · exact .inr rfl
  | property shape held own holds member =>
    obtain ⟨v, found, shown⟩ := propertiesShown holds (List.ne_nil_of_mem member)
    have inner : parts.Inside v s := by
      rw [Parts.Inside, shown]
      exact List.mem_map_of_mem member
    exact .inl (.tail (.single (valueInside (Parts.entriesView held) found)) inner)

theorem emptyOpens {s : Node} (step : Opens parts owner (.map []) s) : False := by
  have shape : parts.shape (.map []) = .ok .any := by
    rw [Parts.shapeShown rfl]
    simp [Entries.at?, Shape.ofEntries, Parts.view, Entries.has, unionKeys]
  cases step with
  | item shape' => cases shape.symm.trans shape'
  | property shape' => cases shape.symm.trans shape'

theorem opensFew (schema : Node) : {s | ReflTransGen (Opens parts owner) schema s}.Finite := by
  have inside : {s | ReflTransGen parts.Inside schema s}.Finite := Parts.insideFew schema
  refine (inside.insert (.map [])).subset fun s reach => ?_
  induction reach with
  | refl => exact .inr .refl
  | tail _ step ih =>
    rcases ih with rfl | inside
    · exact (emptyOpens step).elim
    · rcases opensInside step with deeper | rfl
      · exact .inr (inside.trans deeper.to_reflTransGen)
      · exact .inl rfl

section Reading

variable (parts)

abbrev Stops {α : Type} (r : Except Fault α) : Prop := Tells (· ≠ Fault.endless) r

theorem fieldStops (n : Node) (key : String) : Stops (parts.field n key) := by
  unfold Parts.field
  split <;> simp

theorem entriesStops (n : Node) : Stops (parts.entries n) := by
  unfold Parts.entries
  split <;> simp

theorem itemsStops (n : Node) : Stops (parts.items n) := by
  unfold Parts.items
  split <;> simp

theorem acceptedStops (n : Node) : Stops (parts.refuseReference n) := by
  unfold Parts.refuseReference
  split
  · split
    · rename_i target _
      rcases parts.unexpectedTold target with ⟨_, told⟩ | told <;> simp [told]
    · simp
  · simp

theorem shapeStops (n : Node) : Stops (parts.shape n) :=
  (acceptedStops parts n).bind fun _ _ => (entriesStops parts _).bind fun _ _ => trivial

theorem primitiveStops (kind : Node) : Stops (primitive parts kind) := by
  rcases unsupportedTold parts kind with ⟨_, told⟩ | told <;> unfold primitive <;> split <;>
    simp [told]

theorem nameTextStops {fault : Fault} (told : fault ≠ .endless) (n : Node) :
    Stops (nameText parts fault n) := by
  unfold nameText
  split <;> simp [told]

theorem chainTextStops (chain : List Node) : Stops (chainText parts chain) := by
  induction chain with
  | nil => trivial
  | cons n rest ih =>
    exact (nameTextStops parts (by simp) n).bind fun _ _ => ih.bind fun _ _ => trivial

theorem titleStops (entries : Entries) : Stops (titleName parts entries) := by
  refine Ends.branch (fun _ => ?_) fun _ => trivial
  exact (nameTextStops parts (by simp) _).bind fun _ _ => trivial

theorem ownNameStops (title : Option (List Char)) (chain : List Node) :
    Stops (ownName parts title chain) := by
  cases title with
  | some _ => trivial
  | none => exact chainTextStops parts chain

theorem requiredStops (entries : Entries) : Stops (requiredKeys parts entries) := by
  refine Ends.branch (fun _ => ?_) fun _ => trivial
  exact (itemsStops parts _).bind fun _ _ => Ends.branch (fun _ => trivial) fun _ => by simp

end Reading

theorem pureSettles {α : Type} (a : α) : (pure a : Compiled α).Settles := by
  simp [Trail.Settles]

theorem liftSettles {α : Type} {r : Except Fault α} (stops : Stops r) :
    (liftM r : Compiled α).Settles := by
  cases r with
  | error fault => exact fun same => stops (Except.error.inj same)
  | ok a => exact pureSettles a

theorem liftGoesOn {α β : Type} {r : Except Fault α} {f : α → Compiled β} (stops : Stops r)
    (next : ∀ a, r = .ok a → (f a).Settles) : ((liftM r : Compiled α) >>= f).Settles :=
  Trail.bindSettles.mpr ⟨liftSettles stops, next⟩

theorem fieldsSettle {compile : List Node → Node → Compiled TypeRef} {chain required : List Node}
    {properties : List (Node × Node)}
    (inner : ∀ p ∈ properties, (compile (chain ++ [p.1]) p.2).Settles) :
    (fields parts compile chain required properties).Settles := by
  induction properties with
  | nil => exact pureSettles []
  | cons property rest ih =>
    obtain ⟨name, schema⟩ := property
    obtain ⟨here, later⟩ := List.forall_mem_cons.mp inner
    rw [fields]
    refine liftGoesOn (acceptedStops parts schema) fun schema' refused => ?_
    cases Parts.refuseReferenceSame refused
    refine Trail.bindSettles.mpr ⟨here, fun _ _ => ?_⟩
    refine liftGoesOn (fieldStops parts schema _) fun _ _ => ?_
    exact Trail.bindSettles.mpr ⟨ih later, fun _ _ => pureSettles _⟩

theorem callsSettle {fuel : Nat} {chain : List Node} {schema : Node}
    (inner : ∀ c s, Calls parts owner chain schema c s → (compileAt parts owner fuel c s).Settles) :
    (compileAt parts owner (fuel + 1) chain schema).Settles := by
  rw [compileAt]
  refine liftGoesOn (shapeStops parts schema) fun shape shaped => ?_
  refine liftGoesOn (entriesStops parts schema) fun entries held => ?_
  cases shape with
  | array =>
    refine liftGoesOn (acceptedStops parts _) fun items refused => ?_
    cases Parts.refuseReferenceSame refused
    exact Trail.bindSettles.mpr ⟨inner _ _ (.item shaped held), fun _ _ => pureSettles _⟩
  | object =>
    cases own : isForeign parts owner entries with
    | true =>
      dsimp only
      rw [recordForeign own]
      exact pureSettles _
    | false =>
      simp only [record, own, Bool.false_eq_true, ↓reduceIte]
      refine liftGoesOn (titleStops parts entries) fun title titled => ?_
      refine liftGoesOn (ownNameStops parts title chain) fun _ _ => ?_
      refine liftGoesOn (requiredStops parts entries) fun _ _ => ?_
      refine liftGoesOn (entriesStops parts _) fun properties holds => ?_
      have each : ∀ p ∈ properties,
          (compileAt parts owner fuel (innerChain title chain ++ [p.1]) p.2).Settles :=
        fun p member => inner _ _ (.property shaped held own titled holds member)
      exact Trail.bindSettles.mpr ⟨fieldsSettle each, fun _ _ => pureSettles _⟩
  | union | any => exact pureSettles _
  | primitive kind => exact liftSettles (primitiveStops parts kind)

-- The induction is on the ways down from the schema; the schemas that it opens are finitely many, so
-- one amount of fuel is enough for all of them.
theorem acyclicSettles {schema : Node} (acyclic : ¬ Cyclic (Opens parts owner) schema)
    (chain : List Node) : (parts.compile owner chain schema).Settles := by
  have ends := acyclicAcc (opensFew schema) acyclic
  clear acyclic
  induction ends generalizing chain with
  | intro schema _ ih =>
    have few : {s | Opens parts owner schema s}.Finite :=
      (opensFew schema).subset fun s step => .single step
    obtain ⟨enough, most⟩ := (few.image parts.depth).bddAbove
    have settles : (compileAt parts owner (enough + 1) chain schema).Settles := by
      refine callsSettle fun c s call => ?_
      have step := callOpens call
      have inner : (compileAt parts owner (parts.depth s) c s).Settles := ih s step c
      rwa [settledMore inner (most (Set.mem_image_of_mem _ step))]
    exact depthEnough settles

theorem opensCall {fuel : Nat} {chain : List Node} {schema s : Node} {t : TypeRef}
    (step : Opens parts owner schema s) (ok : Ends (compileAt parts owner fuel) chain schema t) :
    ∃ c, Calls parts owner chain schema c s := by
  cases step with
  | item shape held => exact ⟨chain, .item shape held⟩
  | property shape held own holds member =>
    obtain ⟨title, _, _, _, _, titled, _⟩ := objectEnds shape held own ok
    exact ⟨_, .property shape held own titled holds member⟩

theorem returnsAcyclic {fuel : Nat} {chain : List Node} {schema : Node} {t : TypeRef}
    (ok : Ends (compileAt parts owner fuel) chain schema t) :
    ¬ Cyclic (Opens parts owner) schema := by
  refine accAcyclic ?_
  induction fuel generalizing chain schema t with
  | zero =>
    obtain ⟨_, none, _⟩ := compileAtEnds ok
    cases none
  | succ fuel ih =>
    refine .intro _ fun s step => ?_
    obtain ⟨c, call⟩ := opensCall step ok
    obtain ⟨less, t', same, inner, _⟩ := callEnds call ok
    cases same
    exact ih inner

theorem addAllStops (r : Registry) (ds : List Spelled) : Stops (r.addAll ds).2.result := by
  induction ds generalizing r with
  | nil => trivial
  | cons x rest ih =>
    cases other : r.differs x with
    | false =>
      rw [Registry.addAllAlike other]
      exact ih _
    | true =>
      cases strict : r.strict with
      | true =>
        rw [Registry.addAllRefused other strict]
        exact nofun
      | false =>
        have lax := Registry.addAllLax strict (x :: rest)
        rw [lax]
        trivial

theorem takeSettles {t : Compiled TypeRef} (settles : t.Settles) (r : Registry) (d : Dialect) :
    (r.take d t).2.result ≠ .error .endless := by
  have stops := addAllStops r (t.mapGiven d.define).given
  simp only [Registry.take, Registry.absorb]
  cases added : (r.addAll (t.mapGiven d.define).given).2.result with
  | error fault =>
    rw [added] at stops
    exact fun same => stops (Except.error.inj same)
  | ok _ =>
    cases ended : t.result with
    | error fault => simpa [Trail.mapGiven, ended, Except.map, Trail.Settles] using settles
    | ok reference => simp [Trail.mapGiven, ended, Except.map]

theorem takeReturns {t : Compiled TypeRef} {r : Registry} {d : Dialect} {s : String}
    (ok : (r.take d t).2.result = .ok s) : ∃ reference, t.result = .ok reference := by
  simp only [Registry.take] at ok
  cases absorbed : (r.absorb (t.mapGiven d.define)).2.result with
  | error fault => simp [absorbed, Except.map] at ok
  | ok reference => exact ⟨reference, (Registry.absorbEnds absorbed).2.1⟩

-- The fuel of a compilation is the depth of its schema; more would change nothing.
theorem cyclesAloneDiverge (parts : Parts) (owner : Node) (chain : List Node) (schema : Node)
    (r : Registry) (d : Dialect) :
    (¬ Cyclic (Opens parts owner) schema →
      (r.take d (parts.compile owner chain schema)).2.result ≠ .error .endless ∧
      ∀ fuel, parts.depth schema ≤ fuel →
        compileAt parts owner fuel chain schema = parts.compile owner chain schema) ∧
    (Cyclic (Opens parts owner) schema → ∀ fuel reference,
      (r.take d (compileAt parts owner fuel chain schema)).2.result ≠ .ok reference) := by
  constructor
  · intro acyclic
    have settles := acyclicSettles acyclic chain
    exact ⟨takeSettles settles r d, fun fuel enough => settledMore settles enough⟩
  · intro cyclic fuel reference ok
    obtain ⟨t, returned⟩ := takeReturns ok
    exact returnsAcyclic returned cyclic

def kin : Parts :=
  [Node.object [("type", .str "object"), ("x-openapi-name", .str "Member"),
      ("properties", Node.object [("device", .link 1)])],
    Node.object [("type", .str "object"), ("x-openapi-name", .str "Device"),
      ("properties", Node.object [("owner", .link 0),
        ("twin", Node.object [("oneOf", .list [.link 1])])])],
    Node.object [("type", .str "array"), ("items", .link 2)]]

theorem kinDiverges :
    ¬ Cyclic (Opens kin (.str "Device")) (.link 1) ∧
    Cyclic (Opens kin (.str "Device")) (.link 2) ∧
    ((Registry.empty false).take .python
      (kin.compile (.str "Device") [.str "Device"] (.link 1))).2.result ≠ .error .endless ∧
    ∀ fuel reference, ((Registry.empty false).take .python
      (compileAt kin (.str "Device") fuel [.str "Tree"] (.link 2))).2.result ≠ .ok reference := by
  have ends : (kin.compile (.str "Device") [.str "Device"] (.link 1)).result =
      .ok (.named "Device") := by decide +kernel
  have acyclic : ¬ Cyclic (Opens kin (.str "Device")) (.link 1) := returnsAcyclic ends
  have held : kin.entries (.link 2) =
      .ok [(.str "type", .str "array"), (.str "items", .link 2)] := rfl
  have step : Opens kin (.str "Device") (.link 2) (.link 2) := Opens.item rfl held
  have cyclic : Cyclic (Opens kin (.str "Device")) (.link 2) := ⟨.link 2, .refl, .single step⟩
  have device := (cyclesAloneDiverge kin (.str "Device") [.str "Device"] (.link 1)
    (Registry.empty false) .python).1 acyclic
  have tree := (cyclesAloneDiverge kin (.str "Device") [.str "Tree"] (.link 2)
    (Registry.empty false) .python).2 cyclic
  exact ⟨acyclic, cyclic, device.1, tree⟩

end Compile
end ClientGen
