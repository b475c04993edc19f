import ClientGen.Proofs.Node.Keys
import ClientGen.Proofs.Registry.Strictness

/-! Adding a row of definitions twice. What stands under a name is the last definition added under
it, and a name keeps its place, so the second time changes nothing, whatever the definitions are. A
strict registry that takes the row takes it again, and one that refuses a definition refuses the same
one again; there the keys of names and comments have to stand apart. -/
namespace ClientGen

def Field.Keyed {τ : Type} (f : Field τ) : Prop :=
  f.name.KeyedThroughout ∧ f.comment.KeyedThroughout

def Definition.Keyed {τ : Type} (d : Definition τ) : Prop := ∀ f ∈ d.fields, f.Keyed

theorem Definition.Keyed.formed {τ : Type} {d : Definition τ} (keyed : d.Keyed) : d.WellFormed :=
  fun f member => ⟨Node.keyedFormed (keyed f member).1, Node.keyedFormed (keyed f member).2⟩

theorem Field.sameSymm {a b : Field String} (keyed : a.Keyed) (same : a.same b = true) :
    b.same a = true := by
  simp only [Field.same, Bool.and_eq_true, beq_iff_eq] at same ⊢
  obtain ⟨⟨⟨⟨name, type⟩, optional⟩, comment⟩, readonly⟩ := same
  exact ⟨⟨⟨⟨Node.sameSymm keyed.1 name, type.symm⟩, optional.symm⟩,
    Node.sameSymm keyed.2 comment⟩, readonly.symm⟩

theorem sameFieldsSymm {as bs : List (Field String)} (keyed : ∀ f ∈ as, f.Keyed)
    (same : sameFields as bs = true) : sameFields bs as = true := by
  induction as generalizing bs with
  | nil =>
    cases bs with
    | nil => rfl
    | cons => cases same
  | cons a as ih =>
    cases bs with
    | nil => cases same
    | cons b bs =>
      simp only [sameFields, Bool.and_eq_true] at same ⊢
      obtain ⟨here, later⟩ := List.forall_mem_cons.mp keyed
      exact ⟨Field.sameSymm here same.1, ih later same.2⟩

theorem Definition.sameSymm {a b : Spelled} (keyed : a.Keyed) (same : a.same b = true) :
    b.same a = true := by
  simp only [Definition.same, Bool.and_eq_true, beq_iff_eq] at same ⊢
  exact ⟨same.1.symm, sameFieldsSymm keyed same.2⟩

namespace Registry

theorem addAllAppend (r : Registry) (xs ys : List Spelled) :
    r.addAll (xs ++ ys) = match (r.addAll xs).2.result with
      | .error _ => r.addAll xs
      | .ok _ => (((r.addAll xs).1.addAll ys).1,
          ⟨(r.addAll xs).2.given ++ ((r.addAll xs).1.addAll ys).2.given,
            ((r.addAll xs).1.addAll ys).2.result⟩) := by
  induction xs generalizing r with
  | nil => rfl
  | cons x rest ih =>
    simp only [List.cons_append, addAll]
    cases first : (r.add x).2.result with
    | error fault => simp only [first]
    | ok _ =>
      simp only [ih]
      cases others : ((r.add x).1.addAll rest).2.result with
      | error fault => simp only [others]
      | ok _ => simp only [List.append_assoc]

theorem addAllBefore {r : Registry} {xs ys : List Spelled}
    (ok : (r.addAll (xs ++ ys)).2.result = .ok ()) : (r.addAll xs).2.result = .ok () := by
  rw [addAllAppend] at ok
  cases first : (r.addAll xs).2.result with
  | error fault =>
    simp only [first] at ok
    contradiction
  | ok _ => rfl

theorem setTypeAgain {x y : Spelled} (same : x.name = y.name) (ts : List Spelled) :
    setType y (setType x ts) = setType y ts := by
  induction ts with
  | nil => simp [setType, same]
  | cons t rest ih =>
    by_cases here : t.name = x.name
    · simp [setType, here, same]
    · simp [setType, here, same ▸ here, ih]

theorem setTypeApart {x y : Spelled} (apart : x.name ≠ y.name) {ts : List Spelled}
    (there : x.name ∈ ts.map (·.name)) : setType y (setType x ts) = setType x (setType y ts) := by
  induction ts with
  | nil => cases there
  | cons t rest ih =>
    by_cases first : t.name = x.name
    · have other : t.name ≠ y.name := fun same => apart (first.symm.trans same)
      simp [setType, first, apart]
    · by_cases second : t.name = y.name
      · simp [setType, second, Ne.symm apart]
      · have later : x.name ∈ rest.map (·.name) := by
          simpa [Ne.symm first] using there
        simp [setType, first, second, ih later]

theorem setTypeSettled {x : Spelled} {ts : List Spelled}
    (found : ts.find? (·.name == x.name) = some x) : setType x ts = ts := by
  induction ts with
  | nil => cases found
  | cons t rest ih =>
    by_cases here : t.name = x.name
    · simp only [List.find?_cons, here, beq_self_eq_true, Option.some.injEq] at found
      simp [setType, found]
    · have other : (t.name == x.name) = false := by simpa using here
      simp only [List.find?_cons, other] at found
      simp [setType, here, ih found]

def setTypes (xs ts : List Spelled) : List Spelled := xs.foldl (fun types x => setType x types) ts

theorem setTypesForgets {x : Spelled} {xs ts : List Spelled} (again : x.name ∈ xs.map (·.name))
    (there : x.name ∈ ts.map (·.name)) : setTypes xs (setType x ts) = setTypes xs ts := by
  induction xs generalizing ts with
  | nil => cases again
  | cons y rest ih =>
    by_cases same : x.name = y.name
    · simp only [setTypes, List.foldl_cons, setTypeAgain same]
    · have later : x.name ∈ rest.map (·.name) := by simpa [same] using again
      have kept : x.name ∈ (setType y ts).map (·.name) := by
        rw [namesSetType]
        split
        · exact there
        · exact List.mem_append_left _ there
      have swapped : setTypes rest (setType x (setType y ts)) = setTypes rest (setType y ts) :=
        ih later kept
      simp only [setTypes, List.foldl_cons] at swapped ⊢
      rw [setTypeApart same there, swapped]

def last (xs : List Spelled) (name : String) : Option Spelled := xs.reverse.find? (·.name == name)

theorem lastCons (x : Spelled) (rest : List Spelled) (name : String) :
    last (x :: rest) name = (last rest name).or (if x.name = name then some x else none) := by
  by_cases here : x.name = name <;> simp [last, List.find?_append, here]

theorem lastSome {xs : List Spelled} {name : String} :
    (last xs name).isSome ↔ name ∈ xs.map (·.name) := by
  simp [last, List.find?_isSome]

theorem setTypesFind (xs ts : List Spelled) (name : String) :
    (setTypes xs ts).find? (·.name == name) = (last xs name).or (ts.find? (·.name == name)) := by
  induction xs generalizing ts with
  | nil => simp [setTypes, last]
  | cons x rest ih =>
    have step := ih (setType x ts)
    simp only [setTypes, List.foldl_cons] at step ⊢
    rw [step, findSetType, lastCons, Option.or_assoc]
    by_cases here : x.name = name <;> simp [here]

theorem setTypesSettled {xs ts : List Spelled}
    (there : ∀ name x, last xs name = some x → ts.find? (·.name == name) = some x) :
    setTypes xs ts = ts := by
  induction xs with
  | nil => rfl
  | cons x rest ih =>
    have later : ∀ name y, last rest name = some y → ts.find? (·.name == name) = some y := by
      intro name y found
      exact there name y (by rw [lastCons, found, Option.some_or])
    have settled := ih later
    by_cases again : x.name ∈ rest.map (·.name)
    · obtain ⟨y, found⟩ := Option.isSome_iff_exists.mp (lastSome.mpr again)
      have standing := later x.name y found
      have known : x.name ∈ ts.map (·.name) := by
        have named : y.name = x.name := by simpa using List.find?_some standing
        exact named ▸ List.mem_map_of_mem (List.mem_of_find?_eq_some standing)
      have forgotten := setTypesForgets again known
      simp only [setTypes, List.foldl_cons] at forgotten settled ⊢
      rw [forgotten, settled]
    · have none : last rest x.name = none := by
        simpa [← Option.not_isSome_iff_eq_none, lastSome] using again
      have standing := there x.name x (by rw [lastCons, none, if_pos rfl, Option.none_or])
      simp only [setTypes, List.foldl_cons] at settled ⊢
      rw [setTypeSettled standing, settled]

theorem setTypesTwice (xs ts : List Spelled) : setTypes xs (setTypes xs ts) = setTypes xs ts := by
  refine setTypesSettled fun name x found => ?_
  rw [setTypesFind, found, Option.some_or]

theorem addAllTypes {r : Registry} {xs : List Spelled} (ok : (r.addAll xs).2.result = .ok ()) :
    (r.addAll xs).1 = ⟨r.strict, setTypes xs r.types⟩ := by
  induction xs generalizing r with
  | nil => rfl
  | cons x rest ih =>
    obtain ⟨first, others, same, _⟩ := addAllEnds ok
    rw [same, ih others, addEnds first]
    rfl

theorem findLast {r : Registry} {xs : List Spelled} {d : Spelled}
    (ok : (r.addAll (xs ++ [d])).2.result = .ok ()) :
    (r.addAll (xs ++ [d])).1.find? d.name = some d := by
  have there : last (xs ++ [d]) d.name = some d := by simp [last]
  rw [addAllTypes ok, find?, setTypesFind, there, Option.some_or]

theorem addAllTwice {r : Registry} {xs : List Spelled} (ok : (r.addAll xs).2.result = .ok ())
    (again : ((r.addAll xs).1.addAll xs).2.result = .ok ()) :
    ((r.addAll xs).1.addAll xs).1 = (r.addAll xs).1 := by
  rw [addAllTypes again, addAllTypes ok, setTypesTwice]

section Strict

variable {r : Registry} {xs : List Spelled}

def Stands (r : Registry) (x : Spelled) : Prop :=
  ∃ e, r.find? x.name = some e ∧ e.Keyed ∧ e.same x = true

theorem standsAlike {x : Spelled} (stands : r.Stands x) : r.differs x = false := by
  obtain ⟨e, found, _, same⟩ := stands
  simp [differs, found, same]

theorem strictAlike (strict : r.strict = true) {x : Spelled} (ok : (r.add x).2.result = .ok ()) :
    r.differs x = false :=
  addQuiet ok (.inl strict)

theorem addStands {x y : Spelled} (keyed : x.Keyed) (ok : (r.add x).2.result = .ok ())
    (alike : r.differs x = false) (stands : r.Stands y) : (r.add x).1.Stands y := by
  obtain ⟨e, found, formed, same⟩ := stands
  unfold Stands
  rw [findAdded ok]
  by_cases here : x.name = y.name
  · simp only [differs, here, found, Bool.not_eq_false'] at alike
    have back : x.same e = true := Definition.sameSymm formed alike
    exact ⟨x, by rw [if_pos here], keyed, Definition.sameTrans keyed.formed formed.formed back same⟩
  · exact ⟨e, by rw [if_neg here, found], formed, same⟩

theorem addStandsOwn {x : Spelled} (keyed : x.Keyed) (ok : (r.add x).2.result = .ok ()) :
    (r.add x).1.Stands x :=
  ⟨x, by rw [findAdded ok, if_pos rfl], keyed, Definition.sameSelf keyed.formed⟩

theorem addAllStands (strict : r.strict = true) (keyed : ∀ x ∈ xs, x.Keyed)
    (ok : (r.addAll xs).2.result = .ok ()) :
    (∀ x ∈ xs, (r.addAll xs).1.Stands x) ∧ ∀ y, r.Stands y → (r.addAll xs).1.Stands y := by
  induction xs generalizing r with
  | nil => exact ⟨by simp, fun y stands => stands⟩
  | cons x rest ih =>
    obtain ⟨first, others, last, _⟩ := addAllEnds ok
    obtain ⟨here, keyed⟩ := List.forall_mem_cons.mp keyed
    obtain ⟨later, kept⟩ := ih ((strictAdded first).trans strict) keyed others
    rw [last]
    refine ⟨List.forall_mem_cons.mpr ⟨kept x (addStandsOwn here first), later⟩, fun y stands => ?_⟩
    exact kept y (addStands here first (strictAlike strict first) stands)

theorem rowTaken (keyed : ∀ x ∈ xs, x.Keyed) (stands : ∀ x ∈ xs, r.Stands x) :
    (r.addAll xs).2.result = .ok () := by
  induction xs generalizing r with
  | nil => rfl
  | cons x rest ih =>
    obtain ⟨here, later⟩ := List.forall_mem_cons.mp stands
    obtain ⟨own, keyed⟩ := List.forall_mem_cons.mp keyed
    have alike := standsAlike here
    have ok : (r.add x).2.result = .ok () := by rw [addAlike alike]; rfl
    have next := ih keyed fun y member => addStands own ok alike (later y member)
    rw [addAlike alike] at next
    rw [addAllAlike alike, next]

theorem rowTakenAgain (strict : r.strict = true) (keyed : ∀ x ∈ xs, x.Keyed)
    (ok : (r.addAll xs).2.result = .ok ()) :
    ((r.addAll xs).1.addAll xs).2.result = .ok () :=
  rowTaken keyed (addAllStands strict keyed ok).1

theorem refusedAt {fault : Fault} (failed : (r.addAll xs).2.result = .error fault) :
    ∃ before x after, xs = before ++ x :: after ∧ (r.addAll before).2.result = .ok () ∧
      (r.addAll before).1.differs x = true := by
  induction xs generalizing r with
  | nil => cases failed
  | cons x rest ih =>
    cases first : (r.add x).2.result with
    | error fault' =>
      refine ⟨[], x, rest, rfl, rfl, Bool.eq_true_of_not_eq_false fun alike => ?_⟩
      have ok := congrArg (fun added => added.2.result) (addAlike alike)
      cases first.symm.trans ok
    | ok _ =>
      have later : ((r.add x).1.addAll rest).2.result = .error fault := by
        simpa only [addAll, first] using failed
      obtain ⟨before, y, after, rfl, taken, other⟩ := ih later
      exact ⟨x :: before, y, after, rfl, by simp only [addAll, first, taken],
        by simpa only [addAll, first] using other⟩

theorem refusedThere {before : List Spelled} {x : Spelled} (strict : r.strict = true)
    (taken : (r.addAll before).2.result = .ok ()) (other : (r.addAll before).1.differs x = true)
    (after : List Spelled) :
    (r.addAll (before ++ x :: after)).1 = (r.addAll before).1 ∧
      (r.addAll (before ++ x :: after)).2.result = .error (.typeCollision x.name) := by
  have stays : (r.addAll before).1.strict = true :=
    (congrArg Registry.strict (addAllTypes taken)).trans strict
  simp only [addAllAppend, taken, addAllRefused other stays, Trail.failResult, and_self]

end Strict

theorem addAllAgain {r : Registry} {xs : List Spelled}
    (known : r.strict = false ∨ ∀ x ∈ xs, x.Keyed) :
    ((r.addAll xs).1.addAll xs).1 = (r.addAll xs).1 ∧
      ((r.addAll xs).1.addAll xs).2.result = (r.addAll xs).2.result := by
  have stays (lax : r.strict = false) : (r.addAll xs).1.strict = false :=
    (congrArg Registry.strict (addAllTypes (addAllLax lax xs))).trans lax
  cases strict : r.strict with
  | false =>
    have ok := addAllLax strict xs
    have again := addAllLax (stays strict) xs
    exact ⟨addAllTwice ok again, again.trans ok.symm⟩
  | true =>
    have keyed := known.resolve_left (by simp [strict])
    cases ended : (r.addAll xs).2.result with
    | ok _ =>
      have again := rowTakenAgain strict keyed ended
      exact ⟨addAllTwice ended again, again⟩
    | error fault =>
      obtain ⟨before, x, after, rfl, taken, other⟩ := refusedAt ended
      have early : ∀ y ∈ before, y.Keyed := fun y member => keyed y (List.mem_append_left _ member)
      have again := rowTakenAgain strict early taken
      have same := addAllTwice taken again
      obtain ⟨first, fails⟩ := refusedThere strict taken other after
      have standing : (r.addAll before).1.strict = true :=
        (congrArg Registry.strict (addAllTypes taken)).trans strict
      rw [← same] at other
      obtain ⟨second, fails'⟩ := refusedThere standing again other after
      rw [first, second, same, fails', ← fails, ended]
      exact ⟨rfl, rfl⟩

end Registry
end ClientGen
