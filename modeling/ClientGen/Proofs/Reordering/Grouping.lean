import ClientGen.Proofs.Reordering.Operation

/-! Documents that differ in the order of their keys are grouped alike. The paths stand in one order,
the methods of a path are gone through in an order of their own, and a component is only looked up by
its name; so the same is reported on the way, and the same resources come out or the same refusal. -/
namespace ClientGen.Reordering
open Parts Compile

variable {parts parts' : Parts} {a b : Node}

theorem marksAgree {v w : Node} (unchanged : Unchanged parts parts' v w) :
    Agree Eq (Resource.marksList parts v) (Resource.marksList parts' w) := by
  unfold Resource.marksList
  rw [equalHolds unchanged.equal]
  split
  · exact unchanged.first.bind fun first first' equal => .read (textEqual equal _)
  · exact .read rfl

theorem envelopeAgree (same : Reordered parts parts' .schema a b) :
    Agree (Option.Rel (Reordered parts parts' .schema)) (Resource.listItemSchema parts a)
      (Resource.listItemSchema parts' b) := by
  unfold Resource.listItemSchema
  refine (same.fieldAs rfl).bind fun declared declared' table => ?_
  have properties := table.orElse reorderedEmpty
  refine (properties.fieldAs rfl).bind fun object object' marker => ?_
  rw [marker.holds]
  split
  · exact .read (.some same)
  refine (marker.accepted rfl).bind ?_
  rintro _ _ ⟨rfl, rfl⟩
  refine (marker.fieldPlain rfl).bind fun enumeration enumeration' unchanged => ?_
  refine (marksAgree unchanged).bind ?_
  rintro marks _ rfl
  split
  · exact .read (.some same)
  refine (properties.fieldAs rfl).bind fun data data' inner => ?_
  rw [inner.holds]
  split
  · exact .read .none
  refine (inner.accepted rfl).bind ?_
  rintro _ _ ⟨rfl, rfl⟩
  refine (inner.fieldPlain rfl).bind fun kind kind' unchanged => ?_
  rw [textEqual unchanged.equal]
  split
  · exact .read .none
  refine (inner.fieldAs rfl).bind fun items items' item => ?_
  have item := item.orElse reorderedEmpty
  refine (item.accepted rfl).bind ?_
  rintro _ _ ⟨rfl, rfl⟩
  exact .read (.some item)

theorem originAgree (same : Reordered parts parts' .schema a b) :
    Agree (Equal parts parts') (parts.origin a) (parts'.origin b) := by
  unfold Parts.origin
  rw [same.holds]
  split
  · exact (same.fieldPlain rfl).imp fun _ _ unchanged => unchanged.equal
  · exact .read (equalUsable rfl)

structure SameShown (parts parts' : Parts) (k k' : Node) : Prop where
  key : SameKey parts parts' (parts.view k) (parts'.view k')
  null : (parts.view k).isNull = (parts'.view k').isNull

theorem shownUsable {n : Node} (usable : n.hashable = true) : SameShown parts parts' n n where
  key := by
    rw [viewUsable parts usable, viewUsable parts' usable]
    exact sameKeyUsable usable
  null := by rw [viewUsable parts usable, viewUsable parts' usable]

theorem Reordered.shown {role : Role} (same : Reordered parts parts' role a b) :
    SameShown parts parts' a b := by
  cases same with
  | map left right => exact ⟨by rw [left, right]; exact ⟨rfl, nofun⟩, by rw [left, right]; rfl⟩
  | list left right => exact ⟨by rw [left, right]; exact ⟨rfl, nofun⟩, by rw [left, right]; rfl⟩
  | leaf leaf =>
    refine ⟨?_, by rw [leaf.same]⟩
    have still (ps : Parts) : ps.view (parts.view a) = parts.view a := by
      cases shown : parts.view a with
      | link i => exact absurd shown (leaf.unlinked i)
      | _ => rfl
    rw [← leaf.same]
    exact ⟨by rw [still, still], fun _ => by rw [still, still]⟩

theorem defaultAgree (same : Reordered parts parts' .content a b) :
    Agree (SameShown parts parts') (Content.defaultKey parts a) (Content.defaultKey parts' b) := by
  unfold Content.defaultKey
  rw [same.holds]
  split
  · rw [same.contains rfl rfl]
    cases parts'.contains b (.str preferredMediaType) with
    | error fault => exact .refused fault
    | ok preferred =>
      change Agree _ (if preferred = true then _ else _) (if preferred = true then _ else _)
      split
      · exact .read (shownUsable rfl)
      · refine (same.items rfl rfl).bind fun xs ys each => .read ?_
        cases each with
        | nil => exact shownUsable rfl
        | cons here => exact here.shown
  · exact .read (shownUsable rfl)

theorem nullIff {n : Node} : n.isNull = true ↔ n = .null := by
  cases n <;> simp [Node.isNull]

theorem nameAgree (same : Reordered parts parts' .operation a b) :
    Agree (Equal parts parts') (Resource.nameOf parts a) (Resource.nameOf parts' b) := by
  unfold Resource.nameOf
  refine (same.fieldAs rfl).bind fun declared declared' table => ?_
  refine ((table.orElse reorderedEmpty).fieldAs rfl).bind fun response response' answer => ?_
  rw [answer.holds]
  split
  · exact .read (equalUsable rfl)
  refine (answer.accepted rfl).bind ?_
  rintro _ _ ⟨rfl, rfl⟩
  refine (answer.fieldAs rfl).bind fun content content' media => ?_
  refine (defaultAgree media).bind fun key key' shown => ?_
  have null := shown.null
  split
  · rename_i left
    rw [left] at null
    rw [nullIff.mp null.symm]
    exact .read (equalUsable rfl)
  · rename_i left
    split
    · rename_i right
      rw [right] at null
      exact absurd (nullIff.mp null) left
    · refine (media.lookup rfl rfl shown.key).bind fun raw raw' inner => ?_
      refine (inner.fieldAs rfl).bind fun schema schema' alike => ?_
      rw [alike.holds]
      split
      · exact .read (equalUsable rfl)
      refine (alike.accepted rfl).bind ?_
      rintro _ _ ⟨rfl, rfl⟩
      refine (envelopeAgree alike).bind fun item item' inside => ?_
      cases inside with
      | none => exact .read (equalUsable rfl)
      | some inner => exact originAgree inner

structure Abreast {ω α β : Type} (r : α → β → Prop) (t : Trail ω α) (u : Trail ω β) : Prop where
  given : t.given = u.given
  result : Agree r t.result u.result

namespace Abreast

variable {ω α β γ δ : Type} {r : α → β → Prop} {s : γ → δ → Prop}

theorem pure {a : α} {b : β} (alike : r a b) :
    Abreast r (Pure.pure a : Trail ω α) (Pure.pure b : Trail ω β) := ⟨rfl, .read alike⟩

theorem lift {x : Except Fault α} {y : Except Fault β} (agree : Agree r x y) :
    Abreast r (liftM x : Trail ω α) (liftM y : Trail ω β) := ⟨rfl, agree⟩

theorem give (w : ω) : Abreast Eq (Trail.give w) (Trail.give w) := ⟨rfl, .read rfl⟩

theorem bind {t : Trail ω α} {u : Trail ω β} {f : α → Trail ω γ} {g : β → Trail ω δ}
    (first : Abreast r t u) (next : ∀ a b, r a b → Abreast s (f a) (g b)) :
    Abreast s (t >>= f) (u >>= g) := by
  obtain ⟨before, left⟩ := t
  obtain ⟨before', right⟩ := u
  obtain ⟨given, result⟩ := first
  cases given
  cases result with
  | refused fault => exact ⟨rfl, .refused fault⟩
  | read alike =>
    have later := next _ _ alike
    exact ⟨congrArg (before ++ ·) later.given, later.result⟩

end Abreast

structure SameTagged (parts parts' : Parts) (t u : Tagged) : Prop where
  operation : SameOperation parts parts' t.operation u.operation
  resource : t.resource = u.resource
  usable : t.resource.hashable = true

theorem taggedAbreast (path : Node) (same : Reordered parts parts' .pathItem a b) {method : String}
    (listed : method ∈ methodKeys) :
    Abreast (Option.Rel (SameTagged parts parts')) (Grouping.tagged parts path a method)
      (Grouping.tagged parts' path b method) := by
  have reading : Role.pathItem.reading (.str method) = .as .operation := by
    simp only [methodKeys, List.mem_cons, List.not_mem_nil, or_false] at listed
    rcases listed with rfl | rfl | rfl | rfl | rfl | rfl | rfl | rfl <;> rfl
  unfold Grouping.tagged
  refine (Abreast.lift (same.fieldAs reading)).bind fun raw raw' inner => ?_
  rw [inner.holds]
  split
  · exact .pure .none
  refine (Abreast.lift (.ofSame (fun _ => rfl) rfl)).bind ?_
  rintro text _ rfl
  refine (Abreast.lift (operationAgree text method inner)).bind fun o o' operation => ?_
  refine (Abreast.lift (nameAgree inner)).bind fun name name' named => ?_
  have resource := orElseEqual named sharedResource
  have title : parts.plainText o.id = parts'.plainText o'.id := congrArg Node.plainText operation.id
  rw [Equal] at resource
  rw [resource, title]
  refine (Abreast.give _).bind fun _ _ _ => ?_
  split
  · rename_i usable
    exact .pure (.some ⟨operation, rfl, usable⟩)
  · exact ⟨rfl, .refused _⟩

theorem taggedMethodsAbreast (path : Node) (same : Reordered parts parts' .pathItem a b)
    {methods : List String} (listed : ∀ method ∈ methods, method ∈ methodKeys) :
    Abreast (List.Forall₂ (SameTagged parts parts')) (Grouping.taggedMethods parts path a methods)
      (Grouping.taggedMethods parts' path b methods) := by
  induction methods with
  | nil => exact .pure .nil
  | cons method rest ih =>
    obtain ⟨here, later⟩ := List.forall_mem_cons.mp listed
    refine (taggedAbreast path same here).bind fun first first' tagged => ?_
    refine (ih later).bind fun others others' inner => .pure ?_
    cases tagged with
    | none => exact inner
    | some tagged => exact .cons tagged inner

theorem taggedPathsAbreast {es es' : Entries}
    (each : AlikeTables (Reordered parts parts' .pathItem) es es') :
    Abreast (List.Forall₂ (SameTagged parts parts')) (Grouping.taggedPaths parts es)
      (Grouping.taggedPaths parts' es') := by
  induction each with
  | nil => exact .pure .nil
  | @cons e e' rest rest' here _ ih =>
    obtain ⟨path, item⟩ := e
    obtain ⟨path', item'⟩ := e'
    obtain ⟨rfl, _, same⟩ := here
    refine (Abreast.lift (same.accepted rfl)).bind ?_
    rintro _ _ ⟨rfl, rfl⟩
    have inner := same.orElse reorderedEmpty
    refine (taggedMethodsAbreast _ inner fun _ listed => listed).bind fun first first' tagged => ?_
    exact ih.bind fun others others' later => .pure (List.rel_append tagged later)

structure SameGroup (parts parts' : Parts) (g h : Node × List Operation) : Prop where
  name : g.1 = h.1
  usable : g.1.hashable = true
  operations : List.Forall₂ (SameOperation parts parts') g.2 h.2

theorem insertTogether {t u : Tagged} (tagged : SameTagged parts parts' t u) {gs hs : Groups}
    (groups : List.Forall₂ (SameGroup parts parts') gs hs) :
    List.Forall₂ (SameGroup parts parts') (Grouping.insert t gs) (Grouping.insert u hs) := by
  induction groups with
  | nil => exact .cons ⟨tagged.resource, tagged.usable, .cons tagged.operation .nil⟩ .nil
  | @cons g h gs hs here later ih =>
    obtain ⟨name, operations⟩ := g
    obtain ⟨name', operations'⟩ := h
    obtain ⟨rfl, usable, inside⟩ := here
    rw [Grouping.insert, Grouping.insert, ← tagged.resource]
    split
    · have longer := List.rel_append inside (.cons tagged.operation .nil)
      exact .cons ⟨rfl, usable, longer⟩ later
    · exact .cons ⟨rfl, usable, inside⟩ ih

theorem collectTogether {ts us : List Tagged}
    (tagged : List.Forall₂ (SameTagged parts parts') ts us) {gs hs : Groups}
    (groups : List.Forall₂ (SameGroup parts parts') gs hs) :
    List.Forall₂ (SameGroup parts parts')
      (ts.foldl (fun groups t => Grouping.insert t groups) gs)
      (us.foldl (fun groups t => Grouping.insert t groups) hs) := by
  induction tagged generalizing gs hs with
  | nil => exact groups
  | cons here _ ih => exact ih (insertTogether here groups)

def Knows (parts parts' : Parts) (registry registry' : Node) : Prop :=
  ∀ name : Node, name.hashable = true →
    parts.contains registry name = parts'.contains registry' name

structure SameResource (parts parts' : Parts) (r s : Resource) : Prop where
  name : r.name = s.name
  usable : r.name.hashable = true
  schema : Reordered parts parts' .schema r.schema s.schema
  operations : List.Forall₂ (SameOperation parts parts') r.operations s.operations

theorem resourcesAbreast {registry registry' schemas schemas' : Node}
    (knows : Knows parts parts' registry registry')
    (own : Reordered parts parts' .schemas schemas schemas') {gs hs : Groups}
    (groups : List.Forall₂ (SameGroup parts parts') gs hs) :
    Abreast (List.Forall₂ (SameResource parts parts'))
      (Grouping.resources parts registry schemas gs)
      (Grouping.resources parts' registry' schemas' hs) := by
  induction groups with
  | nil => exact .pure .nil
  | @cons g h gs hs here _ ih =>
    obtain ⟨name, operations⟩ := g
    obtain ⟨name', operations'⟩ := h
    obtain ⟨rfl, usable, inside⟩ := here
    have known : Grouping.isKnown parts registry schemas name =
        Grouping.isKnown parts' registry' schemas' name := by
      rw [Grouping.isKnown, Grouping.isKnown, knows name usable, own.contains rfl usable]
    rw [Grouping.resources, Grouping.resources, known, inside.length_eq]
    refine (Abreast.lift (.ofSame (fun _ => rfl) rfl)).bind ?_
    rintro found _ rfl
    split
    · refine (Abreast.lift (own.lookup rfl rfl (sameKeyUsable usable))).bind
        fun schema schema' same => ?_
      refine (Abreast.lift (same.accepted rfl)).bind ?_
      rintro _ _ ⟨rfl, rfl⟩
      exact ih.bind fun rest rest' later => .pure (.cons ⟨rfl, usable, same, inside⟩ later)
    · exact (Abreast.give _).bind fun _ _ _ => ih

theorem pathsAgree (same : Reordered parts parts' .root a b) :
    Agree (Reordered parts parts' .paths) (Grouping.paths parts a) (Grouping.paths parts' b) := by
  unfold Grouping.paths
  exact (same.fieldAs rfl).bind fun _ _ inner => .read (inner.orElse reorderedEmpty)

theorem schemasAgree (same : Reordered parts parts' .root a b) :
    Agree (Reordered parts parts' .schemas) (Grouping.schemas parts a)
      (Grouping.schemas parts' b) := by
  unfold Grouping.schemas
  refine (same.fieldAs rfl).bind fun _ _ components => ?_
  refine ((components.orElse reorderedEmpty).fieldAs rfl).bind fun _ _ inner => ?_
  exact .read (inner.orElse reorderedEmpty)

theorem groupsAbreast (same : Reordered parts parts' .root a b) :
    Abreast (List.Forall₂ (SameGroup parts parts')) (Grouping.groups parts a)
      (Grouping.groups parts' b) := by
  unfold Grouping.groups
  refine (Abreast.lift (pathsAgree same)).bind fun paths paths' declared => ?_
  refine (Abreast.lift (declared.entries rfl rfl)).bind fun es es' each => ?_
  exact (taggedPathsAbreast each).bind fun ts us tagged => .pure (collectTogether tagged .nil)

theorem buildAbreast {d d' : Document} {registry registry' : Option Node}
    (same : Reordered d.parts d'.parts .root d.root d'.root)
    (knows : Option.Rel (Knows d.parts d'.parts) registry registry') :
    Abreast (List.Forall₂ (SameResource d.parts d'.parts)) (Grouping.build d registry)
      (Grouping.build d' registry') := by
  unfold Grouping.build
  refine (Abreast.lift (schemasAgree same)).bind fun own own' inner => ?_
  refine (groupsAbreast same).bind fun gs hs groups => ?_
  have known : Knows d.parts d'.parts (registry.getD own) (registry'.getD own') := by
    cases knows with
    | some knows => exact knows
    | none => exact fun name usable => inner.contains rfl usable
  refine (resourcesAbreast known inner groups).bind fun found found' alike => ?_
  rw [alike.length_eq]
  exact (Abreast.give _).bind fun _ _ _ => .pure alike

end ClientGen.Reordering
