import ClientGen.Proofs.Compile.Cycles
import ClientGen.Proofs.Reordering.Reading

/-! Schemas that differ in the order of their keys, and of what they require, compile alike. The
properties of an object are gone through in the order in which they stand, and so the fields of a
record come in one order. -/
namespace ClientGen.Reordering
open Parts Compile

variable {parts parts' : Parts} {owner : Node} {role : Role} {a b : Node} {es es' : Entries}

theorem requiredNames {xs ys : List Node}
    (into : ∀ x ∈ xs, ∃ y ∈ ys, SameKey parts parts' x y)
    (usable : (xs.map parts.view).all Node.hashable = true) {name : Node}
    (asked : ((xs.map parts.view).any fun k => name.same k) = true) :
    ((ys.map parts'.view).any fun k => name.same k) = true := by
  obtain ⟨k, member, met⟩ := List.any_eq_true.mp asked
  obtain ⟨x, there, rfl⟩ := List.mem_map.mp member
  obtain ⟨y, there', same⟩ := into x there
  have shown := same.key (List.all_eq_true.mp usable _ member)
  exact List.any_eq_true.mpr ⟨_, List.mem_map_of_mem there', shown ▸ met⟩

theorem requiredUsable {xs ys : List Node}
    (into : ∀ x ∈ xs, ∃ y ∈ ys, SameKey parts parts' x y)
    (usable : (ys.map parts'.view).all Node.hashable = true) :
    (xs.map parts.view).all Node.hashable = true := by
  refine List.all_eq_true.mpr fun k member => ?_
  obtain ⟨x, there, rfl⟩ := List.mem_map.mp member
  obtain ⟨y, there', same⟩ := into x there
  rw [same.usable]
  exact List.all_eq_true.mp usable _ (List.mem_map_of_mem there')

theorem sameKeySymm {x y : Node} (same : SameKey parts parts' x y) : SameKey parts' parts y x where
  usable := same.usable.symm
  key usable := (same.key (same.usable ▸ usable)).symm

theorem requiredReordered (matched : Matched parts parts' .schema es es') :
    Agree SameNames (requiredKeys parts es) (requiredKeys parts' es') := by
  have reads := textRead matched "required"
  unfold requiredKeys
  generalize (Entries.at? "required" es).getD .null = v at reads
  generalize (Entries.at? "required" es').getD .null = w at reads
  cases reads with
  | names requires =>
    cases requires with
    | nothing left right =>
      simp only [left, right]
      exact .read fun _ _ => rfl
    | unlisted there there' left right =>
      simp only [there, there', left, right]
      exact .refused _
    | @listed xs ys there there' left right into onto =>
      have back : ∀ y ∈ ys, ∃ x ∈ xs, SameKey parts' parts y x := fun y member => by
        obtain ⟨x, inside, same⟩ := onto y member
        exact ⟨x, inside, sameKeySymm same⟩
      have both : (xs.map parts.view).all Node.hashable = (ys.map parts'.view).all Node.hashable :=
        Bool.eq_iff_iff.mpr ⟨requiredUsable back, requiredUsable into⟩
      simp only [there, there', left, right, bind, Except.bind, ↓reduceIte, both]
      cases usable : (ys.map parts'.view).all Node.hashable with
      | false => exact .refused _
      | true =>
        refine .read fun name _ => Bool.eq_iff_iff.mpr ⟨?_, ?_⟩
        · exact requiredNames into (both.trans usable)
        · exact requiredNames back usable

theorem itemsReordered (matched : Matched parts parts' .schema es es') :
    Agree (fun x y => Reordered parts parts' .schema x y ∨ x = .map [] ∧ y = .map [])
      (parts.refuseReference (itemSchema parts es))
      (parts'.refuseReference (itemSchema parts' es')) := by
  have reads := textRead matched "items"
  unfold itemSchema
  generalize (Entries.at? "items" es).getD .null = v at reads
  generalize (Entries.at? "items" es').getD .null = w at reads
  cases reads with
  | as same =>
    have inner := same.orElse reorderedEmpty
    refine (inner.accepted rfl).imp ?_
    rintro _ _ ⟨rfl, rfl⟩
    exact .inl inner

theorem propertiesReordered (matched : Matched parts parts' .schema es es') :
    Agree (AlikeTables (Reordered parts parts' .schema)) (Compile.properties parts es)
      (Compile.properties parts' es') := by
  have reads := textRead matched "properties"
  unfold Compile.properties
  generalize (Entries.at? "properties" es).getD .null = v at reads
  generalize (Entries.at? "properties" es').getD .null = w at reads
  cases reads with
  | as same => exact (same.orElse reorderedEmpty).entries rfl rfl

theorem entriesReordered (matched : Matched parts parts' .schema es es') :
    AlikeEntries parts parts' (Reordered parts parts' .schema) es es' where
  plain key read := by
    have reads := textRead matched key
    have plain : Role.schema.reading (.str key) = .plain := by
      simp only [plainKeys, List.mem_cons, List.not_mem_nil, or_false] at read
      rcases read with rfl | rfl | rfl | rfl | rfl <;> rfl
    rw [plain] at reads
    cases reads with
    | plain unchanged => exact unchanged.equal
  keys := textHas matched
  required := requiredReordered matched
  items := itemsReordered matched
  properties := propertiesReordered matched

theorem schemasLike : Likeness parts parts' owner (Reordered parts parts' .schema) where
  accepted alike := alike.accepted rfl
  described alike := (alike.fieldPlain rfl).imp fun _ _ unchanged => unchanged.equal
  body alike := by
    rcases alike.mapped with ⟨es, es', left, right, matched⟩ | ⟨left, right⟩
    · exact .object left right (entriesReordered matched)
    · exact .other left right

theorem otherOpens {s : Node} (other : (parts.view a).isMap = false)
    (step : Opens parts owner a s) : False := by
  have refused : parts.shape a = .error .notAnObject := (entriesOther other).2.1
  cases step with
  | item shape => cases refused.symm.trans shape
  | property shape => cases refused.symm.trans shape

theorem emptyEnds : Acc (fun x y => Opens parts owner y x) (.map []) :=
  .intro _ fun _ step => (emptyOpens step).elim

theorem otherEnds (other : (parts.view a).isMap = false) :
    Acc (fun x y => Opens parts owner y x) a :=
  .intro _ fun _ step => (otherOpens other step).elim

theorem opensEnd (same : Reordered parts parts' role a b) :
    (role = .schema → Acc (fun x y => Opens parts owner y x) a) ∧
      (role = .properties → ∀ es, parts.view a = .map es → ∀ k v, (k, v) ∈ es →
        Acc (fun x y => Opens parts owner y x) v) := by
  induction same with
  | @map role a b es es' left right arranged inner ih =>
    have matched := arranged.matched inner
    constructor
    · rintro rfl
      refine .intro _ fun s step => ?_
      cases step with
      | item shape held =>
        cases (entriesShown left).symm.trans held
        unfold itemSchema Parts.orElse
        split
        · rcases textFound matched "items" with ⟨none, _⟩ | ⟨v, w, found, found', _⟩
          · rw [none]
            exact otherEnds rfl
          · rw [found]
            exact (ih .schema _ v w rfl (foundMember found) (foundMember found')).1 rfl
        · exact emptyEnds
      | property shape held own holds member =>
        cases (entriesShown left).symm.trans held
        obtain ⟨v, found, shown⟩ := propertiesShown holds (List.ne_nil_of_mem member)
        rcases textFound matched "properties" with ⟨none, _⟩ | ⟨_, w, found', there, _⟩
        · cases none.symm.trans found
        · cases found.symm.trans found'
          have each := (ih .properties _ v w rfl (foundMember found) (foundMember there)).2 rfl
          exact each _ shown _ s member
    · rintro rfl fs shown k v member
      cases left.symm.trans shown
      have there := matched.keys.mem_iff.mp (List.mem_map_of_mem member)
      obtain ⟨⟨k', w⟩, member', rfl⟩ := List.mem_map.mp there
      exact (ih .schema _ v w (Role.readingEvery rfl _) member member').1 rfl
  | list left =>
    exact ⟨fun _ => otherEnds (by rw [left]; rfl), fun _ es shown => by cases left.symm.trans shown⟩
  | leaf leaf =>
    refine ⟨fun _ => otherEnds leaf.other, fun _ es shown => ?_⟩
    have other := leaf.other
    simp [shown, Node.isMap] at other

theorem schemasSettle (same : Reordered parts parts' .schema a b) (owner : Node) (chain : List Node) :
    (parts.compile owner chain a).Settles :=
  acyclicSettles (accAcyclic ((opensEnd same).1 rfl)) chain

theorem schemasCompile (same : Reordered parts parts' .schema a b) (owned : owner.hashable = true)
    {chain chain' : List Node} (chains : SameChain parts parts' chain chain') :
    parts.compile owner chain a = parts'.compile owner chain' b :=
  (resultsAlike fun fuel => compileLike schemasLike owned fuel chains same).2
    (schemasSettle same owner chain)

end ClientGen.Reordering
