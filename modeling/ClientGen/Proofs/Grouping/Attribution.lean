import ClientGen.Proofs.Grouping.Partition
import ClientGen.Proofs.Node.Closed

/-! To which resource an operation is attached. It is the resource whose name is inferred from the
operation, unless none is inferred: then the operation goes where the shared name leads, and that
name is free for a component to have. Where no component has it, every operation of a resource is
one that the resource was inferred for. An operation with a known name stands in its resource once
and in no other. -/
namespace ClientGen.Grouping

variable {parts : Parts}

def Declared.Infers (parts : Parts) (resource : Node) (w : Declared) : Prop :=
  ∃ name, Resource.nameOf parts w.raw = .ok name ∧ parts.holds name = true ∧
    (parts.close name).same resource = true

def Declared.Unnamed (parts : Parts) (w : Declared) : Prop :=
  ∃ name, Resource.nameOf parts w.raw = .ok name ∧ parts.holds name = false

structure Declared.Attached (parts : Parts) (resource : Node) (w : Declared) (o : Operation) :
    Prop where
  operation : Operation.ofNode parts w.path w.method w.raw = .ok o
  reason : w.Infers parts resource ∨ resource = .str sharedResource ∧ w.Unnamed parts

theorem readAttached {w : Declared} {t : Tagged} (read : w.Read parts t) {resource : Node}
    (same : t.resource.same resource = true) : w.Attached parts resource t.operation := by
  refine ⟨read.operation, ?_⟩
  obtain ⟨name, named, tag⟩ := read.resource
  cases there : parts.holds name with
  | true =>
    have own : t.resource = parts.close name := by rw [tag, Parts.orElse, if_pos there]
    exact .inl ⟨name, named, there, own ▸ same⟩
  | false =>
    have own : t.resource = .str sharedResource := by
      rw [tag, Parts.orElse, there]
      rfl
    exact .inr ⟨Node.sameTextIff.mp (own ▸ same), name, named, there⟩

theorem attachedUnder {ws : List Declared} {ts : List Tagged}
    (reads : List.Forall₂ (Declared.Read parts) ws ts) (resource : Node) :
    ∃ own, own.Sublist ws ∧ List.Forall₂ (Declared.Attached parts resource) own
      ((ts.filter fun t => t.resource.same resource).map (·.operation)) := by
  induction reads with
  | nil => exact ⟨[], .slnil, .nil⟩
  | @cons w t ws ts read _ ih =>
    obtain ⟨own, inside, attached⟩ := ih
    cases same : t.resource.same resource with
    | true =>
      refine ⟨w :: own, inside.cons_cons w, ?_⟩
      simp only [List.filter_cons, same, ↓reduceIte, List.map_cons]
      exact .cons (readAttached read same) attached
    | false =>
      refine ⟨own, inside.cons w, ?_⟩
      simp only [List.filter_cons, same, Bool.false_eq_true, ↓reduceIte]
      exact attached

theorem nameKnown {registry schemas : Node} {gs : Groups} {rs : List Resource}
    (kept : List.Forall₂ (Kept parts schemas)
      (gs.filter fun g => has parts registry g.1 && has parts schemas g.1) rs)
    {r : Resource} (member : r ∈ rs) :
    has parts registry r.name = true ∧ has parts schemas r.name = true := by
  obtain ⟨g, inside, own⟩ := partner kept member
  have known := (List.mem_filter.mp inside).2
  rw [own.name]
  exact Bool.and_eq_true_iff.mp known

theorem buildAttached {d : Document} {registry : Option Node} {rs : List Resource}
    (built : (build d registry).result = .ok rs) {r : Resource} (member : r ∈ rs) : ∃ own,
      own.Sublist (walk d.parts d.root) ∧
        List.Forall₂ (Declared.Attached d.parts r.name) own r.operations := by
  obtain ⟨schemas, gs, _, grouped, kept⟩ := buildKept built
  obtain ⟨ts, reads, rfl⟩ := groupsRead grouped
  obtain ⟨g, known, name, operations, _⟩ := partner kept member
  have inside := (List.mem_filter.mp known).1
  rw [operations, collectLists (readsUsable reads) g inside, name]
  exact attachedUnder reads g.1

-- An operation is attached as it was inferred, unless a component has the shared name.
theorem operationsInferred {d : Document} {registry : Option Node} {rs : List Resource}
    (built : (build d registry).result = .ok rs) :
    ∃ own, schemas d.parts d.root = .ok own ∧ ∀ r ∈ rs, ∃ declared,
      declared.Sublist (walk d.parts d.root) ∧
      List.Forall₂ (Declared.Attached d.parts r.name) declared r.operations ∧
      (has d.parts (registry.getD own) (.str sharedResource) = false ∨
        has d.parts own (.str sharedResource) = false →
        ∀ w ∈ declared, w.Infers d.parts r.name) := by
  obtain ⟨own, gs, found, _, kept⟩ := buildKept built
  refine ⟨own, found, fun r member => ?_⟩
  obtain ⟨declared, inside, attached⟩ := buildAttached built member
  refine ⟨declared, inside, attached, fun unknown w there => ?_⟩
  obtain ⟨o, _, _, reason⟩ := partner (List.Forall₂.flip attached) there
  rcases reason with inferred | ⟨shared, _⟩
  · exact inferred
  · have known := nameKnown kept member
    rw [shared] at known
    rcases unknown with absent | absent <;> simp [known] at absent

theorem petShopInferred : ∃ rs, (build petShop none).result = .ok rs ∧ ∀ r ∈ rs, ∃ declared,
    declared.Sublist (walk petShop.parts petShop.root) ∧
    List.Forall₂ (Declared.Attached petShop.parts r.name) declared r.operations ∧
    ∀ w ∈ declared, w.Infers petShop.parts r.name := by
  refine ⟨_, rfl, fun r member => ?_⟩
  obtain ⟨own, found, all⟩ := @operationsInferred petShop none _ rfl
  cases found
  obtain ⟨declared, inside, attached, inferred⟩ := all r member
  exact ⟨declared, inside, attached, inferred (.inl rfl)⟩

def poll : Document := .plain (Node.object [
  ("paths", Node.object [("/poll", Node.object [("get", answer text)])]),
  ("components", Node.object [("schemas",
    Node.object [(sharedResource, component sharedResource)])])])

theorem pollTaken : ∃ r, (build poll none).result = .ok [r] ∧ r.name = .str sharedResource ∧
    ¬ ∃ declared, declared.Sublist (walk poll.parts poll.root) ∧
      List.Forall₂ (fun w o => Operation.ofNode poll.parts w.path w.method w.raw = .ok o ∧
        w.Infers poll.parts r.name) declared r.operations := by
  refine ⟨_, rfl, rfl, ?_⟩
  rintro ⟨declared, inside, pairs⟩
  obtain ⟨w, member, _, name, named, there, _⟩ := partner pairs List.mem_cons_self
  have only : w = ⟨"/poll", "get", answer text⟩ :=
    List.mem_singleton.mp (inside.subset member)
  subst only
  cases named
  cases there

def Among (parts : Parts) (resource : Node) (ws : List Declared) (os : List Operation) : Prop :=
  ∃ own, own.Sublist ws ∧ List.Forall₂ (Declared.Attached parts resource) own os

structure Once (parts : Parts) (rs : List Resource) (before : List Declared) (w : Declared)
    (after : List Declared) (r : Resource) : Prop where
  operation : ∃ earlier o later, r.operations = earlier ++ o :: later ∧
    Operation.ofNode parts w.path w.method w.raw = .ok o ∧
    Among parts r.name before earlier ∧ Among parts r.name after later
  others : ∃ rs₁ rs₂, rs = rs₁ ++ r :: rs₂ ∧ ∀ other ∈ rs₁ ++ rs₂, other.name ≠ r.name ∧
    Among parts other.name (before ++ after) other.operations

theorem pairsSplit {α β : Type} {R : α → β → Prop} {before after : List α} {a : α} {bs : List β}
    (pairs : List.Forall₂ R (before ++ a :: after) bs) : ∃ bs₁ b bs₂, bs = bs₁ ++ b :: bs₂ ∧
      List.Forall₂ R before bs₁ ∧ R a b ∧ List.Forall₂ R after bs₂ := by
  induction before generalizing bs with
  | nil =>
    cases pairs with
    | cons here rest => exact ⟨[], _, _, rfl, .nil, here, rest⟩
  | cons first before ih =>
    cases pairs with
    | cons here rest =>
      obtain ⟨bs₁, b, bs₂, rfl, earlier, own, later⟩ := ih rest
      exact ⟨_ :: bs₁, b, bs₂, rfl, .cons here earlier, own, later⟩

theorem holdsText {n : Node} {s : String} (shows : parts.view n = .str s) (some : s ≠ "") :
    parts.holds n = true := by
  simpa [Parts.holds, shows, Node.holds] using some

theorem closeText {n : Node} {s : String} (shows : parts.view n = .str s) :
    parts.close n = .str s := by
  obtain ⟨inner, closed⟩ := Parts.closeShown parts n
  rw [closed, shows]
  rfl

theorem readNamed {w : Declared} {t : Tagged} (read : w.Read parts t) {n : String}
    (tells : ∀ name, Resource.nameOf parts w.raw = .ok name → parts.view name = .str n)
    (some : n ≠ "") : t.resource = .str n := by
  obtain ⟨name, named, tag⟩ := read.resource
  have shows := tells name named
  rw [tag, Parts.orElse, if_pos (holdsText shows some), closeText shows]

theorem groupOf {ts : List Tagged} (usable : ∀ t ∈ ts, t.resource.hashable = true) {t : Tagged}
    (member : t ∈ ts) {n : String} (name : t.resource = .str n) :
    ∃ g ∈ collect ts, g.1 = .str n := by
  have key : (Node.str n).hashable = true := rfl
  have lists := underCollect usable key
  unfold under at lists
  cases found : (collect ts).find? fun g => (Node.str n).same g.1 with
  | none =>
    rw [found] at lists
    have empty := List.map_eq_nil_iff.mp lists.symm
    have apart := List.filter_eq_nil_iff.mp empty t member
    exact absurd (Node.sameTextIff.mpr rfl) (name ▸ apart)
  | some g =>
    have met := List.find?_some found
    exact ⟨g, List.mem_of_find?_eq_some found, Node.sameTextIff.mp met⟩

theorem keysApart {gs₁ gs₂ : Groups} {g : Node × List Operation}
    (apart : (gs₁ ++ g :: gs₂).Pairwise fun a b => b.1.same a.1 = false)
    (usable : ∀ g' ∈ gs₁ ++ g :: gs₂, g'.1.hashable = true) {g' : Node × List Operation}
    (among : g' ∈ gs₁ ++ gs₂) : g.1.same g'.1 = false := by
  obtain ⟨_, after, across⟩ := List.pairwise_append.mp apart
  rcases List.mem_append.mp among with first | last
  · exact across g' first g List.mem_cons_self
  · have own := usable g (by simp)
    have key := usable g' (by simp [last])
    rw [Node.sameSymmKey own key]
    exact (List.pairwise_cons.mp after).1 g' last

theorem attachedOnce {d : Document} {registry : Option Node} {rs : List Resource}
    (built : (build d registry).result = .ok rs) {before after : List Declared} {w : Declared}
    (whole : walk d.parts d.root = before ++ w :: after) {n : String}
    (tells : ∀ name, Resource.nameOf d.parts w.raw = .ok name → d.parts.view name = .str n)
    (some : n ≠ "") {own : Node}
    (declared : schemas d.parts d.root = .ok own)
    (registered : has d.parts (registry.getD own) (.str n) = true)
    (defined : has d.parts own (.str n) = true) :
    ∃ r, Once d.parts rs before w after r ∧ r.name = .str n ∧
      d.parts.lookup own (.str n) = .ok r.schema := by
  obtain ⟨own', gs, declared', grouped, kept⟩ := buildKept built
  cases declared.symm.trans declared'
  obtain ⟨ts, reads, rfl⟩ := groupsRead grouped
  have usable := readsUsable reads
  have lists := collectLists usable
  rw [whole] at reads
  obtain ⟨ts₁, t, ts₂, rfl, earlier, read, later⟩ := pairsSplit reads
  have tag := readNamed read tells some
  obtain ⟨g, member, group⟩ := groupOf usable (by simp) tag
  have known : g ∈ (collect (ts₁ ++ t :: ts₂)).filter fun g =>
      has d.parts (registry.getD own) g.1 && has d.parts own g.1 :=
    List.mem_filter.mpr ⟨member, by rw [group, registered, defined]; rfl⟩
  have apart := (@collectDistinct (ts₁ ++ t :: ts₂)).filter fun g =>
    has d.parts (registry.getD own) g.1 && has d.parts own g.1
  obtain ⟨gs₁, gs₂, split⟩ := List.append_of_mem known
  have inside (g') (there : g' ∈ gs₁ ++ g :: gs₂) : g' ∈ collect (ts₁ ++ t :: ts₂) :=
    (List.mem_filter.mp (split ▸ there)).1
  rw [split] at kept apart
  obtain ⟨rs₁, r, rs₂, rfl, keptBefore, keptOwn, keptAfter⟩ := pairsSplit kept
  have meets : t.resource.same g.1 = true := by rw [tag, group]; exact Node.sameTextIff.mpr rfl
  refine ⟨r, ⟨?_, rs₁, rs₂, rfl, fun other among => ?_⟩, keptOwn.name.trans group,
    group ▸ keptOwn.schema⟩
  · have all := lists g member
    rw [List.filter_append, List.filter_cons, if_pos meets, List.map_append, List.map_cons] at all
    exact ⟨_, _, _, keptOwn.operations.trans all, read.operation,
      keptOwn.name ▸ attachedUnder earlier g.1, keptOwn.name ▸ attachedUnder later g.1⟩
  · obtain ⟨g', there, keptOther⟩ := partner (List.rel_append keptBefore keptAfter) among
    have differs := keysApart apart (fun g' there => collectUsable usable g' (inside g' there)) there
    have all := lists g' (inside g' (List.mem_append.mpr
      ((List.mem_append.mp there).imp_right (List.mem_cons_of_mem _))))
    rw [← tag.trans group.symm] at differs
    rw [List.filter_append, List.filter_cons, if_neg (by simp [differs]), ← List.filter_append] at all
    rw [keptOther.name, keptOther.operations, all, keptOwn.name]
    refine ⟨fun same => ?_, attachedUnder (List.rel_append earlier later) g'.1⟩
    rw [same, meets] at differs
    cases differs

end ClientGen.Grouping
