import ClientGen.Proofs.Reordering.Document

/-! Reading values that differ in the order of their keys. What is read of the one is read of the other
as well, or both are refused for one reason. -/
namespace ClientGen.Reordering
open Parts Compile

variable {parts parts' : Parts} {role r : Role} {a b : Node} {es es' : Entries}

theorem listTogether {α β : Type} {R : α → β → Prop} {xs : List α} {ys : List β}
    (size : xs.length = ys.length)
    (inner : ∀ (i : Nat) (x : α) (y : β), xs[i]? = some x → ys[i]? = some y → R x y) :
    List.Forall₂ R xs ys := by
  refine List.forall₂_iff_get.mpr ⟨size, fun i low low' => ?_⟩
  exact inner i _ _ (List.getElem?_eq_getElem low) (List.getElem?_eq_getElem low')

theorem elementTogether {α β : Type} {R : α → β → Prop} {xs : List α} {ys : List β}
    (together : List.Forall₂ R xs ys) (i : Nat) :
    (xs[i]? = none ∧ ys[i]? = none) ∨ ∃ x y, xs[i]? = some x ∧ ys[i]? = some y ∧ R x y := by
  induction together generalizing i with
  | nil => exact .inl ⟨rfl, rfl⟩
  | cons here _ ih =>
    cases i with
    | zero => exact .inr ⟨_, _, rfl, rfl, here⟩
    | succ i => exact ih i

theorem anyTogether {α β : Type} {p : α → Bool} {q : β → Bool} {xs : List α} {ys : List β}
    (together : List.Forall₂ (fun x y => p x = q y) xs ys) : xs.any p = ys.any q := by
  induction together with
  | nil => rfl
  | cons here _ ih => rw [List.any_cons, List.any_cons, here, ih]

theorem mapsContain (left : parts.view a = .map es) (right : parts'.view b = .map es')
    (keys : (es.map (·.1)).Perm (es'.map (·.1))) (name : Node) :
    parts.contains a name = parts'.contains b name := by
  have found := keys.any_eq (f := fun k => name.same k)
  simp only [List.any_map] at found
  simp only [Parts.contains, left, right]
  exact congrArg Except.ok found

theorem positionSame {k k' : Node} (key : SameKey parts parts' k k') :
    position? (parts.view k) = position? (parts'.view k') := by
  have never {n : Node} (other : n.hashable = false) : position? n = none := by
    cases n <;> first | rfl | simp [Node.hashable] at other
  cases usable : (parts.view k).hashable with
  | true => rw [key.key usable]
  | false => rw [never usable, never (key.usable ▸ usable)]

theorem leafFound (leaf : Leaf parts parts' a b) {k v : Node}
    (found : parts.lookup a k = .ok v) : v.hashable = true := by
  have other := leaf.other
  cases shown : parts.view a with
  | map es => simp [shown, Node.isMap] at other
  | list xs =>
    have flat := leaf.flat xs (by rw [Parts.items, shown])
    simp only [Parts.lookup, shown] at found
    split at found
    · obtain ⟨i, _, item⟩ := Option.bind_eq_some_iff.mp (elimFound found)
      exact flat v (List.mem_of_getElem? item)
    · contradiction
  | str s =>
    have text : parts.lookup a k = parts.lookup (.str s) k := lookupSame shown rfl
    rw [text] at found
    exact lookupUsable rfl found
  | _ =>
    rw [Parts.lookup, shown] at found
    cases found

namespace Reordered

variable (same : Reordered parts parts' role a b)
include same

theorem mapped : (∃ es es', parts.view a = .map es ∧ parts'.view b = .map es' ∧
      Matched parts parts' role es es') ∨
    (parts.view a).isMap = false ∧ (parts'.view b).isMap = false := by
  cases same with
  | map left right arranged inner => exact .inl ⟨_, _, left, right, arranged.matched inner⟩
  | list left right =>
    rw [left, right]
    exact .inr ⟨rfl, rfl⟩
  | leaf leaf => exact .inr ⟨leaf.other, leaf.same ▸ leaf.other⟩

theorem holds : parts.holds a = parts'.holds b := by
  have nonempty {α β : Type} {xs : List α} {ys : List β} (size : xs.length = ys.length) :
      (!xs.isEmpty) = !ys.isEmpty := by
    cases xs <;> cases ys <;> simp_all
  rw [Parts.holds, Parts.holds]
  cases same with
  | map left right arranged _ =>
    rw [left, right]
    exact nonempty (by simpa using arranged.keys.length_eq)
  | list left right size =>
    rw [left, right]
    exact nonempty size
  | leaf leaf => rw [leaf.same]

theorem sameName {name : Node} (usable : name.hashable = true) :
    parts.same name a = parts'.same name b := by
  have never (ps : Parts) {n : Node}
      (other : ∀ inner, (closeInside inner (ps.view n)).hashable = false) :
      name.same (ps.close n) = false := by
    obtain ⟨inner, shown⟩ := closeShown ps n
    refine Bool.eq_false_iff.mpr fun met => ?_
    have named := ((Node.sameKey usable _).mp met).1
    rw [shown, other inner] at named
    cases named
  rw [Parts.same, Parts.same, closeUsable parts usable, closeUsable parts' usable]
  cases same with
  | map left right =>
    rw [never parts (by rw [left]; exact fun _ => rfl), never parts' (by rw [right]; exact fun _ => rfl)]
  | list left right =>
    rw [never parts (by rw [left]; exact fun _ => rfl), never parts' (by rw [right]; exact fun _ => rfl)]
  | leaf leaf => rw [leaf.equal]

theorem orElse {c d : Node} (default : Reordered parts parts' role c d) :
    Reordered parts parts' role (parts.orElse a c) (parts'.orElse b d) := by
  rw [Parts.orElse, Parts.orElse, same.holds]
  split
  · exact same
  · exact default

theorem field (key : String) : Agree (Reads parts parts' (role.reading (.str key)))
    (parts.field a key) (parts'.field b key) := by
  rcases same.mapped with ⟨es, es', left, right, matched⟩ | ⟨left, right⟩
  · simp only [Parts.field, left, right]
    exact .read (textRead matched key)
  · rw [(entriesOther left).2.2.2, (entriesOther right).2.2.2]
    exact .refused _

theorem fieldAs {key : String} (reading : role.reading (.str key) = .as r) :
    Agree (Reordered parts parts' r) (parts.field a key) (parts'.field b key) := by
  refine (same.field key).imp fun v w reads => ?_
  rw [reading] at reads
  cases reads with
  | as inner => exact inner

theorem fieldPlain {key : String} (reading : role.reading (.str key) = .plain) :
    Agree (Unchanged parts parts') (parts.field a key) (parts'.field b key) := by
  refine (same.field key).imp fun v w reads => ?_
  rw [reading] at reads
  cases reads with
  | plain unchanged => exact unchanged

theorem accepted (plain : role.reading (.str "$ref") = .plain) :
    Agree (fun x y => x = a ∧ y = b) (parts.refuseReference a) (parts'.refuseReference b) := by
  rcases same.mapped with ⟨es, es', left, right, matched⟩ | ⟨left, right⟩
  · simp only [refuseReference, left, right]
    rcases textFound matched "$ref" with ⟨none, none'⟩ | ⟨v, w, found, found', reads⟩
    · rw [none, none']
      exact .read ⟨rfl, rfl⟩
    · rw [plain] at reads
      cases reads with
      | plain unchanged =>
        simp only [found, found']
        rw [unexpectedAlike unchanged.equal]
        exact .refused _
  · rw [(entriesOther left).2.2.1, (entriesOther right).2.2.1]
    exact .read ⟨rfl, rfl⟩

theorem entries (every : role.every? = some r) (kept : role.keepsOrder = true) :
    Agree (AlikeTables (Reordered parts parts' r)) (parts.entries a) (parts'.entries b) := by
  rcases same.mapped with ⟨es, es', left, right, matched⟩ | ⟨left, right⟩
  · rw [entriesShown left, entriesShown right]
    have told : ∀ k v w, (k, v) ∈ es → (k, w) ∈ es' →
        k.hashable = true ∧ Reordered parts parts' r v w := by
      intro k v w left right
      have reads := matched.told k v w left right
      rw [Role.readingEvery every] at reads
      cases reads with
      | as inner => exact ⟨matched.apart.1 k (List.mem_map_of_mem left), inner⟩
    exact .read (entriesTogether (matched.order kept) told)
  · rw [(entriesOther left).1, (entriesOther right).1]
    exact .refused _

theorem items (item : role.item? = some r) (kept : role.keepsOrder = true) :
    Agree (List.Forall₂ (Reordered parts parts' r)) (parts.items a) (parts'.items b) := by
  cases same with
  | map left right arranged =>
    simp only [Parts.items, left, right, ← arranged.order kept]
    exact .read (List.forall₂_same.mpr fun k member => .usable (arranged.apart.1 k member))
  | list left right size inner =>
    simp only [Parts.items, left, right]
    exact .read (listTogether size fun i x y => inner r i x y item)
  | leaf leaf =>
    rw [← itemsSame leaf.same]
    cases listed : parts.items a with
    | error fault => exact .refused fault
    | ok xs =>
      exact .read (List.forall₂_same.mpr fun x member => .usable (leaf.flat xs listed x member))

theorem contains (item : role.item? = some r) {name : Node} (usable : name.hashable = true) :
    parts.contains a name = parts'.contains b name := by
  cases same with
  | map left right arranged =>
    exact mapsContain left right arranged.keys name
  | list left right size inner =>
    simp only [Parts.contains, left, right]
    refine congrArg Except.ok (anyTogether ?_)
    exact (listTogether size fun i x y => inner r i x y item).imp fun x y alike =>
      alike.sameName usable
  | leaf leaf =>
    have part {x : Node} {xs : List Node} (listed : parts.items a = .ok xs) (member : x ∈ xs) :
        parts.same name x = parts'.same name x := by
      have inner : Reordered parts parts' r x x := .usable (leaf.flat xs listed x member)
      exact inner.sameName usable
    have each {xs : List Node} (listed : parts.items a = .ok xs) :
        xs.any (parts.same name) = xs.any (parts'.same name) :=
      anyTogether (List.forall₂_same.mpr fun x member => part listed member)
    have other := leaf.other
    simp only [Parts.contains, ← leaf.same]
    cases shown : parts.view a with
    | map es => simp [shown, Node.isMap] at other
    | list xs => exact congrArg Except.ok (each (by rw [Parts.items, shown]))
    | set xs => exact congrArg Except.ok (each (by rw [Parts.items, shown]))
    | pair x y =>
      have listed : parts.items a = .ok [x, y] := by rw [Parts.items, shown]
      dsimp only
      rw [part listed (by simp), part listed (by simp)]
    | _ => rfl

theorem lookup (item : role.item? = some r) (every : role.every? = some r) {k k' : Node}
    (key : SameKey parts parts' k k') :
    Agree (Reordered parts parts' r) (parts.lookup a k) (parts'.lookup b k') := by
  have position : position? (parts.view k) = position? (parts'.view k') := positionSame key
  cases same with
  | map left right arranged inner =>
    have matched := arranged.matched inner
    simp only [Parts.lookup, left, right, ← key.usable]
    cases usable : (parts.view k).hashable with
    | false => exact .refused _
    | true =>
      rw [← key.key usable]
      rcases keyFound matched usable with ⟨none, none'⟩ | ⟨_, v, w, found, found', reads⟩
      · simp only [none, none']
        exact .refused _
      · simp only [found, found']
        rw [Role.readingEvery every] at reads
        cases reads with
        | as inner => exact .read inner
  | @list _ _ _ xs ys left right size inner =>
    have together := listTogether size fun i x y => inner r i x y item
    simp only [Parts.lookup, left, right, ← position, ← size]
    cases position? (parts.view k) with
    | none => exact .refused _
    | some n =>
      dsimp only
      cases index? xs.length n with
      | none => exact .refused _
      | some i =>
        simp only [Option.bind_some]
        rcases elementTogether together i with ⟨none, none'⟩ | ⟨x, y, here, there, alike⟩
        · rw [none, none']
          exact .refused _
        · rw [here, there]
          exact .read alike
  | leaf leaf =>
    have alike : parts.lookup a k = parts'.lookup b k' := by
      have other := leaf.other
      simp only [Parts.lookup, ← leaf.same, ← position]
      cases shown : parts.view a with
      | map es => simp [shown, Node.isMap] at other
      | _ => rfl
    rw [← alike]
    cases found : parts.lookup a k with
    | error fault => exact .refused fault
    | ok v => exact .read (.usable (leafFound leaf found))

end Reordered

end ClientGen.Reordering
