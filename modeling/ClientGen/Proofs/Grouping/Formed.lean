import ClientGen.Grouping
import ClientGen.Proofs.Node.Formed

/-! The resources of a well-formed document are well formed: what is read off a document as a schema
or a name is a part of it. -/
namespace ClientGen

def Resource.wellFormed (r : Resource) : Bool :=
  r.schema.wellFormed && r.operations.all Operation.wellFormed

namespace Parts

variable {parts : Parts}

theorem refusedFormed {n m : Node} (ok : n.wellFormed = true)
    (same : parts.refuseReference n = .ok m) : m.wellFormed = true := by
  unfold refuseReference at same
  split at same
  · split at same
    · contradiction
    · cases same
      exact ok
  · cases same
    exact ok

theorem itemsFormed (rows : parts.wellFormed = true) {n : Node} (ok : n.wellFormed = true)
    {ns : List Node} (held : parts.items n = .ok ns) : ∀ m ∈ ns, m.wellFormed = true := by
  have shown := viewFormed rows ok
  unfold items at held
  split at held <;> rename_i here
  · cases held
    rw [here] at shown
    exact Node.wellFormedListIff.mp (by simpa [Node.wellFormed] using shown)
  · cases held
    rw [here] at shown
    simp only [Node.wellFormed, List.all_eq_true] at shown
    exact fun m member => Node.wellFormedOfUsable (shown m member)
  · cases held
    rw [here] at shown
    simp only [Node.wellFormed, Bool.and_eq_true] at shown
    simp [shown]
  · cases held
    rw [here] at shown
    have members := (Node.wellFormedEntriesIff.mp (by simpa [Node.wellFormed] using shown)).1
    intro m member
    obtain ⟨e, inside, rfl⟩ := List.mem_map.mp member
    exact Node.wellFormedOfUsable (members e inside).1
  · cases held
    simp [Node.wellFormed]
  · cases held
    simp [Node.wellFormed]
  · contradiction

theorem elimFound {α : Type} {x : Option α} {fault : Fault} {a : α}
    (found : x.elim (.error fault : Except Fault α) .ok = .ok a) : x = some a := by
  cases x with
  | none => cases found
  | some b => exact congrArg some (Except.ok.inj found)

theorem lookupFormed (rows : parts.wellFormed = true) {whole key n : Node}
    (ok : whole.wellFormed = true) (found : parts.lookup whole key = .ok n) :
    n.wellFormed = true := by
  have shown := viewFormed rows ok
  unfold lookup at found
  split at found <;> rename_i here
  · rw [here] at shown
    have members := (Node.wellFormedEntriesIff.mp (by simpa [Node.wellFormed] using shown)).1
    split at found
    · contradiction
    · split at found
      · rename_i v value
        cases found
        obtain ⟨e, first, rfl⟩ := Option.map_eq_some_iff.mp value
        exact (members e (List.mem_of_find?_eq_some first)).2
      · contradiction
  · rw [here] at shown
    have members := Node.wellFormedListIff.mp (by simpa [Node.wellFormed] using shown)
    split at found
    · obtain ⟨i, _, item⟩ := Option.bind_eq_some_iff.mp (elimFound found)
      exact members n (List.mem_of_getElem? item)
    · contradiction
  · split at found
    · generalize (index? _ _).bind _ = character at found
      cases character with
      | none => cases found
      | some c =>
        cases found
        rfl
    · contradiction
  · contradiction

end Parts

theorem Parameter.formed {parts : Parts} (rows : parts.wellFormed = true) {raw : Node}
    (ok : raw.wellFormed = true) {p : Parameter} (read : Parameter.ofNode parts raw = .ok p) :
    p.name.wellFormed = true ∧ p.schema.wellFormed = true := by
  unfold Parameter.ofNode at read
  obtain ⟨raw', refused, read⟩ := Fault.bindOk read
  have ok := Parts.refusedFormed ok refused
  obtain ⟨schema, declared, read⟩ := Fault.bindOk read
  obtain ⟨entries, held, read⟩ := Fault.bindOk read
  dsimp only at read
  split at read
  · rename_i name named
    have name' := Node.valueFormed (Parts.entriesFormed rows ok held) "name"
    rw [named] at name'
    obtain ⟨_, same, read⟩ := Fault.bindOk read
    cases same
    split at read
    · obtain ⟨schema', refused, read⟩ := Fault.bindOk read
      cases read
      exact ⟨name', Parts.refusedFormed (Parts.fieldFormed rows ok declared) refused⟩
    · obtain ⟨schema', empty, read⟩ := Fault.bindOk read
      cases empty
      cases read
      exact ⟨name', rfl⟩
  · obtain ⟨_, missing, _⟩ := Fault.bindOk read
    cases missing

theorem Content.ofEntriesFormed {parts : Parts} (rows : parts.wellFormed = true)
    {entries : Entries} (ok : Node.wellFormedEntries entries = true) {ms : List MediaType}
    (read : Content.ofEntries parts entries = .ok ms) : ∀ m ∈ ms, m.schema.wellFormed = true := by
  induction entries generalizing ms with
  | nil =>
    cases read
    simp
  | cons e rest ih =>
    obtain ⟨type, raw⟩ := e
    simp only [Node.wellFormedEntries, Bool.and_eq_true] at ok
    obtain ⟨m, first, read⟩ := Fault.bindOk read
    obtain ⟨ms', others, read⟩ := Fault.bindOk read
    cases read
    obtain ⟨schema, declared, first⟩ := Fault.bindOk first
    cases first
    refine List.forall_mem_cons.mpr ⟨?_, ih ok.2 others⟩
    obtain ⟨schema', found, declared⟩ := Fault.bindOk declared
    split at declared
    · exact Parts.refusedFormed (Parts.fieldFormed rows ok.1.2 found) declared
    · cases declared
      rfl

theorem Content.formed {parts : Parts} (rows : parts.wellFormed = true) {raw : Node}
    (ok : raw.wellFormed = true) {c : Content} (read : Content.ofNode parts raw = .ok c) :
    c.wellFormed = true := by
  unfold Content.ofNode at read
  split at read
  · obtain ⟨entries, held, read⟩ := Fault.bindOk read
    obtain ⟨ms, declared, read⟩ := Fault.bindOk read
    cases read
    simp only [Content.wellFormed, List.all_eq_true]
    exact ofEntriesFormed rows (Parts.entriesFormed rows ok held) declared
  · cases read
    rfl

theorem Response.formed {parts : Parts} (rows : parts.wellFormed = true) {code : String}
    {raw : Node} (ok : raw.wellFormed = true) {r : Response}
    (read : Response.ofNode parts code raw = .ok r) : r.content.wellFormed = true := by
  obtain ⟨raw', refused, read⟩ := Fault.bindOk read
  obtain ⟨declared, field, read⟩ := Fault.bindOk read
  obtain ⟨content, inside, read⟩ := Fault.bindOk read
  obtain ⟨description, _, read⟩ := Fault.bindOk read
  cases read
  exact Content.formed rows (Parts.fieldFormed rows (Parts.refusedFormed ok refused) field) inside

namespace Operation

variable {parts : Parts}

theorem requestFormed (rows : parts.wellFormed = true) {raw : Node} (ok : raw.wellFormed = true)
    {request : Option Content} (read : requestOf parts raw = .ok request) :
    request.all Content.wellFormed = true := by
  obtain ⟨body, found, read⟩ := Fault.bindOk read
  split at read
  · obtain ⟨body', refused, read⟩ := Fault.bindOk read
    obtain ⟨declared, field, read⟩ := Fault.bindOk read
    obtain ⟨content, inside, read⟩ := Fault.bindOk read
    cases read
    have body := Parts.refusedFormed (Parts.fieldFormed rows ok found) refused
    exact Content.formed rows (Parts.fieldFormed rows body field) inside
  · cases read
    rfl

theorem responsesFormed (rows : parts.wellFormed = true) {raw : Node}
    (ok : raw.wellFormed = true) {responses : List Response}
    (read : responsesOf parts raw = .ok responses) :
    ∀ r ∈ responses, r.content.wellFormed = true := by
  obtain ⟨declared, found, read⟩ := Fault.bindOk read
  obtain ⟨entries, held, read⟩ := Fault.bindOk read
  have inside := Parts.entriesFormed rows
    (Parts.orElseFormed (Parts.fieldFormed rows ok found) rfl) held
  intro r member
  obtain ⟨e, declared, read⟩ := readEachMember read member
  exact Response.formed rows ((Node.wellFormedEntriesIff.mp inside).1 e declared).2 read

structure Sources (parts : Parts) (raw : Node) (o : Operation) : Prop where
  parameters : ∃ declared items, parts.field raw "parameters" = .ok declared ∧
    parts.items (parts.orElse declared (.list [])) = .ok items ∧
    readEach (Parameter.ofNode parts) items = .ok o.parameters
  request : requestOf parts raw = .ok o.request
  responses : responsesOf parts raw = .ok o.responses

theorem sources {path method : String} {raw : Node} {o : Operation}
    (read : ofNode parts path method raw = .ok o) : Sources parts raw o := by
  unfold ofNode at read
  obtain ⟨declared, found, read⟩ := Fault.bindOk read
  obtain ⟨items, held, read⟩ := Fault.bindOk read
  obtain ⟨parameters, each, read⟩ := Fault.bindOk read
  obtain ⟨request, requested, read⟩ := Fault.bindOk read
  obtain ⟨responses, answered, read⟩ := Fault.bindOk read
  obtain ⟨_, _, read⟩ := Fault.bindOk read
  obtain ⟨_, _, read⟩ := Fault.bindOk read
  obtain ⟨_, _, read⟩ := Fault.bindOk read
  obtain ⟨_, _, read⟩ := Fault.bindOk read
  obtain ⟨_, _, read⟩ := Fault.bindOk read
  cases read
  exact ⟨⟨declared, items, found, held, each⟩, requested, answered⟩

theorem formed (rows : parts.wellFormed = true) {path method : String} {raw : Node}
    (ok : raw.wellFormed = true) {o : Operation}
    (read : Operation.ofNode parts path method raw = .ok o) : o.wellFormed = true := by
  have source := sources read
  obtain ⟨declared, items, found, held, each⟩ := source.parameters
  have inside := Parts.itemsFormed rows
    (Parts.orElseFormed (Parts.fieldFormed rows ok found) rfl) held
  simp only [wellFormed, Bool.and_eq_true, List.all_eq_true]
  refine ⟨⟨fun p member => ?_, requestFormed rows ok source.request⟩,
    responsesFormed rows ok source.responses⟩
  obtain ⟨item, declared, read⟩ := readEachMember each member
  exact Parameter.formed rows (inside item declared) read

end Operation

namespace Grouping

variable {parts : Parts}

theorem pathsFormed (rows : parts.wellFormed = true) {spec found : Node}
    (ok : spec.wellFormed = true) (read : paths parts spec = .ok found) :
    found.wellFormed = true := by
  obtain ⟨declared, field, read⟩ := Fault.bindOk read
  cases read
  exact Parts.orElseFormed (Parts.fieldFormed rows ok field) rfl

theorem schemasFormed (rows : parts.wellFormed = true) {spec found : Node}
    (ok : spec.wellFormed = true) (read : schemas parts spec = .ok found) :
    found.wellFormed = true := by
  obtain ⟨components, field, read⟩ := Fault.bindOk read
  obtain ⟨declared, field', read⟩ := Fault.bindOk read
  cases read
  have inside := @Parts.orElseFormed parts components (.map []) (Parts.fieldFormed rows ok field) rfl
  exact Parts.orElseFormed (Parts.fieldFormed rows inside field') rfl

theorem taggedFormed (rows : parts.wellFormed = true) {path item : Node} {method : String}
    (ok : item.wellFormed = true) {t : Tagged}
    (ended : (tagged parts path item method).result = .ok (some t)) :
    t.operation.wellFormed = true := by
  unfold tagged at ended
  obtain ⟨raw, field, ended, _⟩ := Trail.bindEnds ended
  split at ended
  · cases ended
  · obtain ⟨_, _, ended, _⟩ := Trail.bindEnds ended
    obtain ⟨operation, read, ended, _⟩ := Trail.bindEnds ended
    obtain ⟨name, _, ended, _⟩ := Trail.bindEnds ended
    obtain ⟨_, _, ended, _⟩ := Trail.bindEnds ended
    split at ended
    · cases ended
      exact Operation.formed rows (Parts.fieldFormed rows ok field) read
    · cases ended

theorem taggedMethodsFormed (rows : parts.wellFormed = true) {path item : Node}
    (ok : item.wellFormed = true) {methods : List String} {ts : List Tagged}
    (ended : (taggedMethods parts path item methods).result = .ok ts) :
    ∀ t ∈ ts, t.operation.wellFormed = true := by
  induction methods generalizing ts with
  | nil =>
    cases ended
    simp
  | cons method rest ih =>
    obtain ⟨first, here, ended, _⟩ := Trail.bindEnds ended
    obtain ⟨others, later, ended, _⟩ := Trail.bindEnds ended
    cases ended
    intro t member
    rcases List.mem_append.mp member with own | inside
    · exact taggedFormed rows ok (here.trans (congrArg _ (Option.mem_toList.mp own)))
    · exact ih later t inside

theorem taggedPathsFormed (rows : parts.wellFormed = true) {entries : Entries}
    (ok : Node.wellFormedEntries entries = true) {ts : List Tagged}
    (ended : (taggedPaths parts entries).result = .ok ts) :
    ∀ t ∈ ts, t.operation.wellFormed = true := by
  induction entries generalizing ts with
  | nil =>
    cases ended
    simp
  | cons e rest ih =>
    obtain ⟨path, item⟩ := e
    simp only [Node.wellFormedEntries, Bool.and_eq_true] at ok
    obtain ⟨item', refused, ended, _⟩ := Trail.bindEnds ended
    obtain ⟨first, here, ended, _⟩ := Trail.bindEnds ended
    obtain ⟨others, later, ended, _⟩ := Trail.bindEnds ended
    cases ended
    have inside := @Parts.orElseFormed parts item' (.map [])
      (Parts.refusedFormed ok.1.2 refused) rfl
    intro t member
    rcases List.mem_append.mp member with own | inside'
    · exact taggedMethodsFormed rows inside here t own
    · exact ih ok.2 later t inside'

theorem insertMember {t : Tagged} {groups : Groups} {g : Node × List Operation}
    (member : g ∈ insert t groups) {o : Operation} (inside : o ∈ g.2) :
    o = t.operation ∨ ∃ g' ∈ groups, o ∈ g'.2 := by
  induction groups with
  | nil =>
    cases List.mem_singleton.mp member
    exact .inl (List.mem_singleton.mp inside)
  | cons first rest ih =>
    obtain ⟨name, operations⟩ := first
    simp only [insert] at member
    split at member
    · rcases List.mem_cons.mp member with rfl | later
      · rcases List.mem_append.mp inside with old | new
        · exact .inr ⟨_, List.mem_cons_self, old⟩
        · exact .inl (List.mem_singleton.mp new)
      · exact .inr ⟨g, List.mem_cons_of_mem _ later, inside⟩
    · rcases List.mem_cons.mp member with rfl | later
      · exact .inr ⟨_, List.mem_cons_self, inside⟩
      · refine (ih later).imp_right ?_
        rintro ⟨g', found, inside⟩
        exact ⟨g', List.mem_cons_of_mem _ found, inside⟩

theorem collectFormed {ts : List Tagged} (ok : ∀ t ∈ ts, t.operation.wellFormed = true) :
    ∀ g ∈ collect ts, ∀ o ∈ g.2, o.wellFormed = true := by
  have step (groups : Groups) (before : ∀ g ∈ groups, ∀ o ∈ g.2, o.wellFormed = true) :
      ∀ g ∈ ts.foldl (fun groups t => insert t groups) groups, ∀ o ∈ g.2,
        o.wellFormed = true := by
    induction ts generalizing groups with
    | nil => exact before
    | cons t rest ih =>
      obtain ⟨here, later⟩ := List.forall_mem_cons.mp ok
      refine ih later (insert t groups) fun g member o inside => ?_
      rcases insertMember member inside with rfl | ⟨g', found, inside⟩
      · exact here
      · exact before g' found o inside
  exact step [] (by simp)

theorem resourcesFormed (rows : parts.wellFormed = true) {registry schemas : Node}
    (declared : schemas.wellFormed = true) {groups : Groups}
    (ok : ∀ g ∈ groups, ∀ o ∈ g.2, o.wellFormed = true) {rs : List Resource}
    (ended : (resources parts registry schemas groups).result = .ok rs) :
    ∀ r ∈ rs, r.wellFormed = true := by
  induction groups generalizing rs with
  | nil =>
    cases ended
    simp
  | cons g rest ih =>
    obtain ⟨name, operations⟩ := g
    obtain ⟨here, later⟩ := List.forall_mem_cons.mp ok
    unfold resources at ended
    obtain ⟨known, _, ended, _⟩ := Trail.bindEnds ended
    split at ended
    · obtain ⟨found, looked, ended, _⟩ := Trail.bindEnds ended
      obtain ⟨schema, refused, ended, _⟩ := Trail.bindEnds ended
      obtain ⟨rs', others, ended, _⟩ := Trail.bindEnds ended
      cases ended
      refine List.forall_mem_cons.mpr ⟨?_, ih later others⟩
      simp only [Resource.wellFormed, Bool.and_eq_true, List.all_eq_true]
      exact ⟨Parts.refusedFormed (Parts.lookupFormed rows declared looked) refused, here⟩
    · obtain ⟨_, _, ended, _⟩ := Trail.bindEnds ended
      exact ih later ended

theorem buildFormed {d : Document} (rows : d.parts.wellFormed = true)
    (root : d.root.wellFormed = true) {registry : Option Node} {rs : List Resource}
    (ended : (build d registry).result = .ok rs) : ∀ r ∈ rs, r.wellFormed = true := by
  unfold build at ended
  obtain ⟨own, declared, ended, _⟩ := Trail.bindEnds ended
  obtain ⟨found, grouped, ended, _⟩ := Trail.bindEnds ended
  obtain ⟨rs', kept, ended, _⟩ := Trail.bindEnds ended
  obtain ⟨_, _, ended, _⟩ := Trail.bindEnds ended
  cases ended
  unfold groups at grouped
  obtain ⟨paths, read, grouped, _⟩ := Trail.bindEnds grouped
  obtain ⟨entries, held, grouped, _⟩ := Trail.bindEnds grouped
  obtain ⟨ts, tagged, grouped, _⟩ := Trail.bindEnds grouped
  cases grouped
  have inside := Parts.entriesFormed rows (pathsFormed rows root read) held
  exact resourcesFormed rows (schemasFormed rows root declared)
    (collectFormed (taggedPathsFormed rows inside tagged)) kept

end Grouping
end ClientGen
