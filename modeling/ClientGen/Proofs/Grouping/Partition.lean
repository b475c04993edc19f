import ClientGen.Proofs.Compile.Calls
import ClientGen.Proofs.Grouping.Formed
import ClientGen.Proofs.Node.Pairs

/-! Grouping is a partition that keeps the order. The operations that a document declares are read
one by one, each with the name of its resource; the groups have these names in the order in which
they first come, and the operations of a group are those of its name, in the order of the document.
A group becomes a resource when its name is known. -/
namespace ClientGen.Grouping

structure Declared where
  path : String
  method : String
  raw : Node

variable {parts : Parts}

def members (parts : Parts) (n : Node) : Entries :=
  match parts.view n with
  | .map entries => entries
  | _ => []

def declaredAt (parts : Parts) (path : String) (item : Node) (method : String) : Option Declared :=
  ((Entries.at? method (members parts item)).filter parts.holds).map fun raw => ⟨path, method, raw⟩

-- Path after path in the order of the document, and on each the methods in their fixed order.
def walk (parts : Parts) (root : Node) : List Declared :=
  (members parts ((Entries.at? "paths" (members parts root)).getD .null)).flatMap fun e =>
    methodKeys.filterMap (declaredAt parts e.1.plainText e.2)

structure Declared.Read (parts : Parts) (w : Declared) (t : Tagged) : Prop where
  operation : Operation.ofNode parts w.path w.method w.raw = .ok t.operation
  resource : ∃ name, Resource.nameOf parts w.raw = .ok name ∧
    t.resource = parts.close (parts.orElse name (.str sharedResource))
  usable : t.resource.hashable = true

theorem fieldMember {n m : Node} {key : String} (found : parts.field n key = .ok m) :
    m = (Entries.at? key (members parts n)).getD .null := by
  unfold Parts.field at found
  unfold members
  cases shown : parts.view n with
  | map entries =>
    rw [shown] at found
    cases found
    rfl
  | _ =>
    rw [shown] at found
    contradiction

theorem entriesMembers {n : Node} {entries : Entries} (held : parts.entries n = .ok entries) :
    entries = members parts n := by
  rw [members, Parts.entriesView held]

theorem orElseMembers (n : Node) : members parts (parts.orElse n (.map [])) = members parts n := by
  unfold Parts.orElse
  split
  · rfl
  · rename_i empty
    unfold members
    unfold Parts.holds at empty
    cases shown : parts.view n with
    | map entries =>
      have none : entries = [] := by simpa [shown, Node.holds] using empty
      simp [none, Parts.view]
    | _ => rfl

theorem readsUsable {ws : List Declared} {ts : List Tagged}
    (reads : List.Forall₂ (Declared.Read parts) ws ts) : ∀ t ∈ ts, t.resource.hashable = true := by
  intro t member
  obtain ⟨w, _, read⟩ := partner reads member
  exact read.usable

theorem taggedReads {path item : Node} {method : String} {found : Option Tagged}
    (ended : (tagged parts path item method).result = .ok found) :
    List.Forall₂ (Declared.Read parts) (declaredAt parts path.plainText item method).toList
      found.toList := by
  unfold tagged at ended
  obtain ⟨raw, field, ended, _⟩ := Trail.bindEnds ended
  have value := fieldMember field
  split at ended
  · rename_i absent
    cases ended
    have nothing : declaredAt parts path.plainText item method = none := by
      unfold declaredAt
      cases inside : Entries.at? method (members parts item) with
      | none => rfl
      | some n =>
        rw [inside] at value
        subst value
        simpa [Option.filter] using absent
    simp [nothing]
  · rename_i present
    obtain ⟨text, shown, ended, _⟩ := Trail.bindEnds ended
    have spelled : path.plainText = text := by rw [pathTextShown shown, Node.plainText]
    obtain ⟨operation, read, ended, _⟩ := Trail.bindEnds ended
    obtain ⟨name, named, ended, _⟩ := Trail.bindEnds ended
    obtain ⟨_, _, ended, _⟩ := Trail.bindEnds ended
    split at ended
    · rename_i usable
      cases ended
      have there : declaredAt parts text item method = some ⟨text, method, raw⟩ := by
        unfold declaredAt
        cases inside : Entries.at? method (members parts item) with
        | none =>
          rw [inside] at value
          subst value
          simp [Parts.holds, Parts.view, Node.holds] at present
        | some n =>
          rw [inside] at value
          subst value
          simpa [Option.filter] using present
      rw [spelled, there]
      exact .cons ⟨read, ⟨name, named, rfl⟩, usable⟩ .nil
    · cases ended

theorem taggedMethodsRead {path item : Node} {methods : List String} {ts : List Tagged}
    (ended : (taggedMethods parts path item methods).result = .ok ts) :
    List.Forall₂ (Declared.Read parts) (methods.filterMap (declaredAt parts path.plainText item))
      ts := by
  induction methods generalizing ts with
  | nil =>
    cases ended
    exact .nil
  | cons method rest ih =>
    obtain ⟨first, here, ended, _⟩ := Trail.bindEnds ended
    obtain ⟨others, later, ended, _⟩ := Trail.bindEnds ended
    cases ended
    rw [List.filterMap_eq_flatMap_toList, List.flatMap_cons, ← List.filterMap_eq_flatMap_toList]
    exact List.rel_append (taggedReads here) (ih later)

theorem taggedPathsRead {entries : Entries} {ts : List Tagged}
    (ended : (taggedPaths parts entries).result = .ok ts) :
    List.Forall₂ (Declared.Read parts) (entries.flatMap fun e =>
      methodKeys.filterMap (declaredAt parts e.1.plainText e.2)) ts := by
  induction entries generalizing ts with
  | nil =>
    cases ended
    exact .nil
  | cons e rest ih =>
    obtain ⟨path, item⟩ := e
    obtain ⟨item', refused, ended, _⟩ := Trail.bindEnds ended
    cases Parts.refuseReferenceSame refused
    obtain ⟨first, here, ended, _⟩ := Trail.bindEnds ended
    obtain ⟨others, later, ended, _⟩ := Trail.bindEnds ended
    cases ended
    have own := taggedMethodsRead here
    have same : declaredAt parts path.plainText (parts.orElse item (.map [])) =
        declaredAt parts path.plainText item := by
      funext method
      simp only [declaredAt, orElseMembers]
    rw [same] at own
    rw [List.flatMap_cons]
    exact List.rel_append own (ih later)

theorem groupsRead {root : Node} {gs : Groups} (ended : (groups parts root).result = .ok gs) :
    ∃ ts, List.Forall₂ (Declared.Read parts) (walk parts root) ts ∧ gs = collect ts := by
  obtain ⟨found, read, ended, _⟩ := Trail.bindEnds ended
  obtain ⟨entries, held, ended, _⟩ := Trail.bindEnds ended
  obtain ⟨ts, tagged, ended, _⟩ := Trail.bindEnds ended
  cases ended
  obtain ⟨declared, field, read⟩ := Fault.bindOk read
  cases read
  have all := taggedPathsRead tagged
  rw [entriesMembers held, orElseMembers, fieldMember field] at all
  exact ⟨ts, all, rfl⟩

def under (gs : Groups) (name : Node) : List Operation :=
  ((gs.find? fun g => name.same g.1).map (·.2)).getD []

theorem insertKeys (t : Tagged) (gs : Groups) : (insert t gs).map (·.1) =
    if (gs.map (·.1)).any (t.resource.same ·) then gs.map (·.1)
    else gs.map (·.1) ++ [t.resource] := by
  induction gs with
  | nil => rfl
  | cons g rest ih =>
    obtain ⟨name, operations⟩ := g
    by_cases met : t.resource.same name = true
    · simp [insert, met]
    · simp only [insert, met, Bool.false_eq_true, ↓reduceIte, List.map_cons, ih, List.any_cons,
        Bool.false_or]
      split <;> simp_all

theorem collectKeys (ts : List Tagged) :
    (collect ts).map (·.1) = (ts.map (·.resource)).eraseDupsBy Node.same := by
  have run (gs : Groups) : (ts.foldl (fun gs t => insert t gs) gs).map (·.1) =
      List.eraseDupsBy.loop Node.same (ts.map (·.resource)) (gs.map (·.1)).reverse := by
    induction ts generalizing gs with
    | nil => simp [List.eraseDupsBy.loop]
    | cons t rest ih =>
      rw [List.foldl_cons, ih, insertKeys, List.map_cons, List.eraseDupsBy.loop, List.any_reverse]
      cases (gs.map (·.1)).any (t.resource.same ·) <;> simp
  exact run []

theorem collectDistinct {ts : List Tagged} :
    (collect ts).Pairwise fun a b => b.1.same a.1 = false := by
  have run (gs : Groups) (apart : (gs.map (·.1)).Pairwise fun a b => b.same a = false) :
      ((ts.foldl (fun gs t => insert t gs) gs).map (·.1)).Pairwise fun a b => b.same a = false := by
    induction ts generalizing gs with
    | nil => exact apart
    | cons t rest ih =>
      refine ih _ ?_
      rw [insertKeys]
      split
      · exact apart
      · rename_i fresh
        refine List.pairwise_append.mpr ⟨apart, List.pairwise_singleton _ _, ?_⟩
        intro a member b last
        cases List.mem_singleton.mp last
        simp only [List.any_eq_true, not_exists, not_and, Bool.not_eq_true] at fresh
        exact fresh a member
  exact List.pairwise_map.mp (run [] .nil)

theorem insertPermutes (t : Tagged) (gs : Groups) :
    ((insert t gs).flatMap (·.2)).Perm (gs.flatMap (·.2) ++ [t.operation]) := by
  induction gs with
  | nil => simp [insert]
  | cons g rest ih =>
    obtain ⟨name, operations⟩ := g
    simp only [insert]
    split
    · simp only [List.flatMap_cons, List.append_assoc]
      have last : ([t.operation] ++ rest.flatMap (·.2)).Perm (rest.flatMap (·.2) ++ [t.operation]) :=
        List.perm_append_comm
      exact last.append_left operations
    · simp only [List.flatMap_cons, List.append_assoc]
      exact ih.append_left operations

theorem collectPermutes (ts : List Tagged) :
    ((collect ts).flatMap (·.2)).Perm (ts.map (·.operation)) := by
  have run (gs : Groups) : ((ts.foldl (fun gs t => insert t gs) gs).flatMap (·.2)).Perm
      (gs.flatMap (·.2) ++ ts.map (·.operation)) := by
    induction ts generalizing gs with
    | nil => simp
    | cons t rest ih =>
      refine (ih (insert t gs)).trans ?_
      have step := (insertPermutes t gs).append_right (rest.map (·.operation))
      simpa using step
  exact run []

theorem collectUsable {ts : List Tagged} (usable : ∀ t ∈ ts, t.resource.hashable = true) :
    ∀ g ∈ collect ts, g.1.hashable = true := by
  have run (gs : Groups) (before : ∀ k ∈ gs.map (·.1), k.hashable = true) :
      ∀ k ∈ (ts.foldl (fun gs t => insert t gs) gs).map (·.1), k.hashable = true := by
    induction ts generalizing gs with
    | nil => exact before
    | cons t rest ih =>
      obtain ⟨here, later⟩ := List.forall_mem_cons.mp usable
      refine ih later _ fun k member => ?_
      rw [insertKeys] at member
      split at member
      · exact before k member
      · rcases List.mem_append.mp member with old | new
        · exact before k old
        · exact List.mem_singleton.mp new ▸ here
  exact fun g member => run [] (by simp) g.1 (List.mem_map_of_mem member)

theorem underInsert {t : Tagged} (usable : t.resource.hashable = true) {name : Node}
    (key : name.hashable = true) (gs : Groups) : under (insert t gs) name =
      if t.resource.same name then under gs name ++ [t.operation] else under gs name := by
  cases met : t.resource.same name with
  | true =>
    -- Both names meet the same keys, so the operation goes where the name is looked for.
    have alike := Node.sameAlike usable met
    induction gs with
    | nil => simp [insert, under, ← alike, Node.sameSelfKey usable]
    | cons g rest ih =>
      cases here : t.resource.same g.1 with
      | true => simp [insert, under, ← alike, here]
      | false => simpa [insert, under, ← alike, here] using ih
  | false =>
    induction gs with
    | nil =>
      have apart : name.same t.resource = false := by rw [Node.sameSymmKey key usable, met]
      simp [insert, under, apart]
    | cons g rest ih =>
      cases here : t.resource.same g.1 with
      | true =>
        have apart : name.same g.1 = false := by
          have other := ((Node.sameKey usable g.1).mp here).1
          rw [Node.sameSymmKey key other, ← Node.sameAlike usable here, met]
        simp [insert, under, here, apart]
      | false =>
        cases own : name.same g.1 with
        | true => simp [insert, under, here, own]
        | false => simpa [insert, under, here, own] using ih

theorem underCollect {ts : List Tagged} (usable : ∀ t ∈ ts, t.resource.hashable = true)
    {name : Node} (key : name.hashable = true) :
    under (collect ts) name = (ts.filter fun t => t.resource.same name).map (·.operation) := by
  have run (gs : Groups) : under (ts.foldl (fun gs t => insert t gs) gs) name =
      under gs name ++ (ts.filter fun t => t.resource.same name).map (·.operation) := by
    induction ts generalizing gs with
    | nil => simp
    | cons t rest ih =>
      obtain ⟨here, later⟩ := List.forall_mem_cons.mp usable
      rw [List.foldl_cons, ih later, underInsert here key]
      cases met : t.resource.same name <;> simp [met]
  exact run []

theorem underMember {gs : Groups} (apart : gs.Pairwise fun a b => b.1.same a.1 = false)
    {g : Node × List Operation} (member : g ∈ gs) (usable : g.1.hashable = true) :
    under gs g.1 = g.2 := by
  induction gs with
  | nil => cases member
  | cons first rest ih =>
    obtain ⟨fresh, later⟩ := List.pairwise_cons.mp apart
    rcases List.mem_cons.mp member with rfl | inside
    · simp [under, Node.sameSelfKey usable]
    · simpa [under, fresh g inside] using ih later inside

theorem collectLists {ts : List Tagged} (usable : ∀ t ∈ ts, t.resource.hashable = true) :
    ∀ g ∈ collect ts, g.2 = (ts.filter fun t => t.resource.same g.1).map (·.operation) := by
  intro g member
  have key := collectUsable usable g member
  rw [← underCollect usable key, underMember collectDistinct member key]

def has (parts : Parts) (whole name : Node) : Bool :=
  match parts.contains whole name with
  | .ok found => found
  | .error _ => false

structure Kept (parts : Parts) (schemas : Node) (g : Node × List Operation) (r : Resource) :
    Prop where
  name : r.name = g.1
  operations : r.operations = g.2
  schema : parts.lookup schemas g.1 = .ok r.schema

theorem knownHas {registry schemas name : Node} {known : Bool}
    (ended : isKnown parts registry schemas name = .ok known) :
    known = (has parts registry name && has parts schemas name) := by
  obtain ⟨registered, found, ended⟩ := Fault.bindOk ended
  cases registered with
  | true =>
    have inside : parts.contains schemas name = .ok known := ended
    simp [has, found, inside]
  | false =>
    cases ended
    simp [has, found]

theorem resourcesKept {registry schemas : Node} {gs : Groups} {rs : List Resource}
    (ended : (resources parts registry schemas gs).result = .ok rs) :
    List.Forall₂ (Kept parts schemas)
      (gs.filter fun g => has parts registry g.1 && has parts schemas g.1) rs := by
  induction gs generalizing rs with
  | nil =>
    cases ended
    exact .nil
  | cons g rest ih =>
    obtain ⟨name, operations⟩ := g
    unfold resources at ended
    obtain ⟨known, found, ended, _⟩ := Trail.bindEnds ended
    have there := knownHas found
    split at ended
    · rename_i yes
      obtain ⟨schema, looked, ended, _⟩ := Trail.bindEnds ended
      obtain ⟨schema', refused, ended, _⟩ := Trail.bindEnds ended
      cases Parts.refuseReferenceSame refused
      obtain ⟨others, later, ended, _⟩ := Trail.bindEnds ended
      cases ended
      rw [List.filter_cons_of_pos (there ▸ yes)]
      exact .cons ⟨rfl, rfl, looked⟩ (ih later)
    · rename_i no
      obtain ⟨_, _, ended, _⟩ := Trail.bindEnds ended
      rw [List.filter_cons_of_neg (there ▸ no)]
      exact ih ended

theorem buildKept {d : Document} {registry : Option Node} {rs : List Resource}
    (ended : (build d registry).result = .ok rs) :
    ∃ own gs, schemas d.parts d.root = .ok own ∧ (groups d.parts d.root).result = .ok gs ∧
      List.Forall₂ (Kept d.parts own) (gs.filter fun g =>
        has d.parts (registry.getD own) g.1 && has d.parts own g.1) rs := by
  obtain ⟨own, declared, ended, _⟩ := Trail.bindEnds ended
  obtain ⟨gs, grouped, ended, _⟩ := Trail.bindEnds ended
  obtain ⟨rs', kept, ended, _⟩ := Trail.bindEnds ended
  obtain ⟨_, _, ended, _⟩ := Trail.bindEnds ended
  cases ended
  exact ⟨own, gs, declared, grouped, resourcesKept kept⟩

theorem groupsPartition {d : Document} {gs : Groups}
    (grouped : (groups d.parts d.root).result = .ok gs) :
    (∃ ts, List.Forall₂ (Declared.Read d.parts) (walk d.parts d.root) ts ∧
      gs.map (·.1) = (ts.map (·.resource)).eraseDupsBy Node.same ∧
      gs.Pairwise (fun a b => b.1.same a.1 = false) ∧
      (∀ g ∈ gs, g.2 = (ts.filter fun t => t.resource.same g.1).map (·.operation)) ∧
      (gs.flatMap (·.2)).Perm (ts.map (·.operation))) ∧
    ∀ registry rs, (build d registry).result = .ok rs → ∃ own,
      schemas d.parts d.root = .ok own ∧ List.Forall₂ (Kept d.parts own) (gs.filter fun g =>
        has d.parts (registry.getD own) g.1 && has d.parts own g.1) rs := by
  constructor
  · obtain ⟨ts, reads, rfl⟩ := groupsRead grouped
    exact ⟨ts, reads, collectKeys ts, collectDistinct, collectLists (readsUsable reads),
      collectPermutes ts⟩
  · intro registry rs built
    obtain ⟨own, gs', declared, grouped', kept⟩ := buildKept built
    rw [grouped] at grouped'
    cases grouped'
    exact ⟨own, declared, kept⟩

def answer (schema : Node) : Node := Node.object [("responses", Node.object [("default",
  Node.object [("content", Node.object [("application/json", Node.object [("schema", schema)])])])])]

def text : Node := Node.object [("type", .str "string")]

def component (name : String) : Node :=
  Node.object [("type", .str "object"), (originKey, .str name)]

def petShop : Document := .plain (Node.object [
  ("paths", Node.object [
    ("/pets", Node.object [("post", answer (component "Pet")), ("get", answer text)]),
    ("/pet", Node.object [("get", answer (component "Pet"))])]),
  ("components", Node.object [("schemas", Node.object [("Pet", component "Pet")])])])

theorem petShopPartition : ∃ gs rs, (groups petShop.parts petShop.root).result = .ok gs ∧
    gs.map (·.1) = [.str "shared", .str "Pet"] ∧ gs.map (·.2.length) = [1, 2] ∧
    (∃ ts, List.Forall₂ (Declared.Read petShop.parts) (walk petShop.parts petShop.root) ts ∧
      ∀ g ∈ gs, g.2 = (ts.filter fun t => t.resource.same g.1).map (·.operation)) ∧
    (build petShop none).result = .ok rs ∧ rs.map (·.name) = [.str "Pet"] ∧
    ∃ own, schemas petShop.parts petShop.root = .ok own ∧ List.Forall₂ (Kept petShop.parts own)
      (gs.filter fun g => has petShop.parts own g.1 && has petShop.parts own g.1) rs := by
  refine ⟨_, _, rfl, rfl, rfl, ?_, rfl, rfl, ?_⟩
  · obtain ⟨ts, reads, _, _, lists, _⟩ := (groupsPartition (d := petShop) rfl).1
    exact ⟨ts, reads, lists⟩
  · exact (groupsPartition (d := petShop) rfl).2 none _ rfl

end ClientGen.Grouping
