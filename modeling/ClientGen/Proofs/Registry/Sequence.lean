import ClientGen.Proofs.Node.Pairs
import ClientGen.Proofs.Registry.Replaying

/-! A registry through any row of calls, refused ones among them. It has one definition for each name
that was taken, where the name was first taken, and the one last taken under it. A call for a
definition that differs from the one last taken is refused by a strict registry, which it leaves as
it is, and only reported by any other. So a strict registry takes definitions under one name only
while they are the same. -/
namespace ClientGen.Registry

def after (strict : Bool) (ds : List Spelled) : Registry :=
  ds.foldl (fun r d => (r.add d).1) (empty strict)

def call (strict : Bool) (ds : List Spelled) (d : Spelled) : Report Unit :=
  ((after strict ds).add d).2

def placedBehind (before : List Spelled) : List Spelled → List (List Spelled × Spelled)
  | [] => []
  | d :: rest => (before, d) :: placedBehind (before ++ [d]) rest

def placed (ds : List Spelled) : List (List Spelled × Spelled) := placedBehind [] ds

def taken (strict : Bool) (ds : List Spelled) : List Spelled :=
  ((placed ds).filter fun p => (call strict p.1 p.2).result.isOk).map (·.2)

def told (strict : Bool) (ds : List Spelled) : List Event :=
  (placed ds).flatMap fun p => (call strict p.1 p.2).given

def clashes (strict : Bool) (p : List Spelled × Spelled) : Bool :=
  (last (taken strict p.1) p.2.name).any fun e => !e.same p.2

variable {r : Registry} {strict : Bool} {ds : List Spelled} {d : Spelled}

theorem addFails {fault : Fault} (failed : (r.add d).2.result = .error fault) :
    r.differs d = true ∧ r.strict = true ∧ (r.add d).1 = r := by
  cases other : r.differs d with
  | false => simp [addAlike other] at failed
  | true =>
    cases strict : r.strict with
    | false => simp [addReported other strict] at failed
    | true => exact ⟨rfl, rfl, by rw [addRefused other strict]⟩

theorem strictKept (r : Registry) (d : Spelled) : (r.add d).1.strict = r.strict := by
  cases ended : (r.add d).2.result with
  | ok _ => exact strictAdded ended
  | error fault => rw [(addFails ended).2.2]

theorem findOwn (apart : r.names.Nodup) {t : Spelled} (member : t ∈ r.types) :
    r.find? t.name = some t := by
  rw [find?, List.find?_eq_some_iff_append]
  obtain ⟨before, behind, whole⟩ := List.append_of_mem member
  refine ⟨by simp, before, behind, whole, fun e there => ?_⟩
  simp only [names, whole, List.map_append, List.map_cons, List.nodup_append,
    List.mem_map, List.mem_cons] at apart
  have other : e.name ≠ t.name := apart.2.2 e.name ⟨e, there, rfl⟩ t.name (.inl rfl)
  simpa using other

theorem afterLast (strict : Bool) (ds : List Spelled) (d : Spelled) :
    after strict (ds ++ [d]) = ((after strict ds).add d).1 := by
  simp [after]

theorem placedLast (ds : List Spelled) (d : Spelled) :
    placed (ds ++ [d]) = placed ds ++ [(ds, d)] := by
  have behind (before : List Spelled) :
      placedBehind before (ds ++ [d]) = placedBehind before ds ++ [(before ++ ds, d)] := by
    induction ds generalizing before with
    | nil => simp [placedBehind]
    | cons e rest ih => simp [placedBehind, ih]
  exact behind []

theorem takenOk (ok : (call strict ds d).result = .ok ()) :
    taken strict (ds ++ [d]) = taken strict ds ++ [d] := by
  simp [taken, placedLast, ok, Except.isOk, Except.toBool]

theorem takenRefused {fault : Fault} (failed : (call strict ds d).result = .error fault) :
    taken strict (ds ++ [d]) = taken strict ds := by
  simp [taken, placedLast, failed, Except.isOk, Except.toBool]

theorem lastConcat (xs : List Spelled) (x : Spelled) (name : String) :
    last (xs ++ [x]) name = if x.name = name then some x else last xs name := by
  by_cases here : x.name = name <;> simp [last, here]

theorem afterStrict (strict : Bool) (ds : List Spelled) : (after strict ds).strict = strict := by
  induction ds using List.reverseRecOn with
  | nil => rfl
  | append_singleton ds d ih => rw [afterLast, strictKept, ih]

theorem afterApart (strict : Bool) (ds : List Spelled) : (after strict ds).names.Nodup := by
  induction ds using List.reverseRecOn with
  | nil => exact List.nodup_nil
  | append_singleton ds d ih =>
    rw [afterLast]
    exact namesStayApart d ih

theorem afterNames (strict : Bool) (ds : List Spelled) :
    (after strict ds).names = ((taken strict ds).map (·.name)).eraseDups := by
  induction ds using List.reverseRecOn with
  | nil => rfl
  | append_singleton ds d ih =>
    rw [afterLast]
    cases ended : (call strict ds d).result with
    | error fault => rw [(addFails ended).2.2, takenRefused ended, ih]
    | ok _ =>
      have known : d.name ∈ (after strict ds).names ↔ d.name ∈ (taken strict ds).map (·.name) := by
        rw [ih, List.mem_eraseDups]
      rw [addEnds ended, takenOk ended, List.map_append, List.map_singleton, Node.eraseDupsConcat,
        ← ih, ← if_congr known rfl rfl]
      exact namesSetType d _

theorem afterFind (strict : Bool) (ds : List Spelled) (name : String) :
    (after strict ds).find? name = last (taken strict ds) name := by
  induction ds using List.reverseRecOn with
  | nil => rfl
  | append_singleton ds d ih =>
    rw [afterLast]
    cases ended : (call strict ds d).result with
    | error fault => rw [(addFails ended).2.2, takenRefused ended, ih]
    | ok _ => rw [findAdded ended, takenOk ended, lastConcat, ih]

theorem afterTypes (strict : Bool) (ds : List Spelled) :
    (after strict ds).types = (after strict ds).names.filterMap (last (taken strict ds)) := by
  have own : ∀ t ∈ (after strict ds).types, last (taken strict ds) t.name = some t := by
    intro t member
    rw [← afterFind, findOwn (afterApart strict ds) member]
  rw [names, List.filterMap_map]
  exact ((List.filterMap_congr own).trans List.filterMap_some).symm

theorem clashesDiffer (strict : Bool) (ds : List Spelled) (d : Spelled) :
    clashes strict (ds, d) = (after strict ds).differs d := by
  rw [clashes, ← afterFind, differs]
  cases (after strict ds).find? d.name <;> rfl

theorem callAlike (alike : clashes strict (ds, d) = false) : call strict ds d = pure () := by
  rw [clashesDiffer] at alike
  rw [call, addAlike alike]

theorem callReported (other : clashes false (ds, d) = true) :
    call false ds d = Trail.give (.redefined d.name) := by
  rw [clashesDiffer] at other
  rw [call, addReported other (afterStrict false ds)]

theorem callRefused (other : clashes true (ds, d) = true) :
    call true ds d = Trail.fail (.typeCollision d.name) ∧
      after true (ds ++ [d]) = after true ds := by
  rw [clashesDiffer] at other
  have refused := addRefused other (afterStrict true ds)
  exact ⟨by rw [call, refused], by rw [afterLast, refused]⟩

theorem takenLax (ds : List Spelled) : taken false ds = ds := by
  induction ds using List.reverseRecOn with
  | nil => rfl
  | append_singleton ds d ih =>
    have ok : (call false ds d).result = .ok () := by
      cases other : clashes false (ds, d) with
      | false => rw [callAlike other, Trail.pureResult]
      | true => rw [callReported other, Trail.giveResult]
    rw [takenOk ok, ih]

theorem toldLax (ds : List Spelled) :
    told false ds = ((placed ds).filter (clashes false)).map fun p => .redefined p.2.name := by
  induction ds using List.reverseRecOn with
  | nil => rfl
  | append_singleton ds d ih =>
    unfold told at ih ⊢
    rw [placedLast, List.flatMap_append, ih, List.filter_append, List.map_append]
    cases other : clashes false (ds, d) with
    | false => simp [callAlike other, other]
    | true => simp [callReported other, other]

theorem takenStand (keyed : ∀ d ∈ ds, d.Keyed) :
    ∀ d ∈ taken true ds, (after true ds).Stands d := by
  induction ds using List.reverseRecOn with
  | nil => exact fun _ => nofun
  | append_singleton ds d ih =>
    obtain ⟨before, own⟩ := List.forall_mem_append.mp keyed
    have own : d.Keyed := own d List.mem_cons_self
    rw [afterLast]
    cases ended : (call true ds d).result with
    | error fault =>
      rw [(addFails ended).2.2, takenRefused ended]
      exact ih before
    | ok _ =>
      rw [takenOk ended]
      have alike := strictAlike (afterStrict true ds) ended
      refine List.forall_mem_append.mpr ⟨fun e member => ?_, fun e member => ?_⟩
      · exact addStands own ended alike (ih before e member)
      · rw [List.mem_singleton.mp member]
        exact addStandsOwn own ended

theorem standsStored (stands : r.Stands d) :
    ∃ t ∈ r.types, t.name = d.name ∧ t.same d = true ∧ d.same t = true := by
  obtain ⟨t, found, keyed, same⟩ := stands
  exact ⟨t, List.mem_of_find?_eq_some found, by simpa using List.find?_some found, same,
    Definition.sameSymm keyed same⟩

theorem rowRegistered (ds : List Spelled) :
    (∀ strict, (after strict ds).names = ((taken strict ds).map (·.name)).eraseDups ∧
      (after strict ds).types = (after strict ds).names.filterMap (last (taken strict ds)) ∧
      ∀ name, (after strict ds).find? name = last (taken strict ds) name) ∧
    (taken false ds = ds ∧ (told false ds).length = (placed ds).countP (clashes false)) ∧
    (∀ p ∈ placed ds, ((∃ fault, (call true p.1 p.2).result = .error fault) ↔
        clashes true p = true) ∧
      (clashes true p = true → (call true p.1 p.2).result = .error (.typeCollision p.2.name) ∧
        after true (p.1 ++ [p.2]) = after true p.1)) ∧
    ((∀ d ∈ ds, d.Keyed) → ∀ d ∈ taken true ds,
      ∃ t ∈ (after true ds).types, t.name = d.name ∧ t.same d = true ∧ d.same t = true) := by
  refine ⟨fun strict => ⟨afterNames strict ds, afterTypes strict ds, afterFind strict ds⟩,
    ⟨takenLax ds, ?_⟩, ?_, ?_⟩
  · rw [toldLax, List.length_map, ← List.countP_eq_length_filter]
  · rintro ⟨before, d⟩ -
    cases other : clashes true (before, d) with
    | false => simp [callAlike other]
    | true =>
      obtain ⟨refused, stays⟩ := callRefused other
      simp [refused, stays]
  · exact fun keyed d member => standsStored (takenStand keyed d member)

def bolt (said : Node) : Spelled := ⟨"Bolt", [⟨.str "size", "number", false, said, true⟩]⟩

def crate : Spelled := ⟨"Crate", [⟨.str "bolts", "Array<Bolt>", true, .null, true⟩]⟩

def shipped : List Spelled :=
  [bolt (.int 1), crate, bolt (.float 1), bolt (.int 2), bolt (.bool true)]

theorem shippedRegistered :
    (∀ d ∈ shipped, d.Keyed) ∧
    taken true shipped = [bolt (.int 1), crate, bolt (.float 1), bolt (.bool true)] ∧
    (after true shipped).types = [bolt (.bool true), crate] ∧
    (told false shipped).length = 2 ∧
    ∀ d ∈ taken true shipped, ∃ t ∈ (after true shipped).types, t.name = d.name ∧
      t.same d = true ∧ d.same t = true := by
  have usable : ∀ d ∈ shipped, ∀ f ∈ d.fields,
      f.name.hashable = true ∧ f.comment.hashable = true := by
    simp [shipped, bolt, crate, Node.hashable]
  have keyed : ∀ d ∈ shipped, d.Keyed := fun d member f shown =>
    ⟨Node.keyedUsable (usable d member f shown).1, Node.keyedUsable (usable d member f shown).2⟩
  obtain ⟨registered, ⟨_, warned⟩, _, same⟩ := rowRegistered shipped
  have kept : taken true shipped = [bolt (.int 1), crate, bolt (.float 1), bolt (.bool true)] := rfl
  refine ⟨keyed, kept, ?_, warned.trans rfl, same keyed⟩
  rw [(registered true).2.1, (registered true).1, kept]
  rfl

end ClientGen.Registry
