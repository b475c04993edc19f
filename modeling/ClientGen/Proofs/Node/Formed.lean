import ClientGen.Proofs.Node.Sameness
import ClientGen.Operation

/-! Well-formed documents. Closing a value and reading a part of it keep it well formed, and so does
gathering query parameters into one schema, since a key that comes again replaces the value. -/
namespace ClientGen

namespace Node

theorem sameSymmKey {a b : Node} (left : a.hashable = true) (right : b.hashable = true) :
    a.same b = b.same a := by
  rw [Bool.eq_iff_iff, sameKey left, sameKey right]
  exact ⟨fun h => ⟨left, h.2.symm⟩, fun h => ⟨right, h.2.symm⟩⟩

theorem insertKeyMember {k v : Node} {es : Entries} {e : Node × Node}
    (member : e ∈ insertKey k v es) : e = (k, v) ∨ ∃ w, (e.1, w) ∈ es ∧ (e.2 = v ∨ e.2 = w) := by
  induction es with
  | nil => exact .inl (by simpa [insertKey] using member)
  | cons first rest ih =>
    obtain ⟨k', v'⟩ := first
    simp only [insertKey] at member
    split at member
    · rcases List.mem_cons.mp member with rfl | inside
      · exact .inr ⟨v', List.mem_cons_self, .inl rfl⟩
      · exact .inr ⟨e.2, List.mem_cons_of_mem _ inside, .inr rfl⟩
    · rcases List.mem_cons.mp member with rfl | inside
      · exact .inr ⟨v', List.mem_cons_self, .inr rfl⟩
      · refine (ih inside).imp_right ?_
        rintro ⟨w, before, value⟩
        exact ⟨w, List.mem_cons_of_mem _ before, value⟩

theorem insertKeyFormed {k v : Node} {es : Entries} (ok : wellFormedEntries es = true)
    (usable : k.hashable = true) (value : v.wellFormed = true) :
    wellFormedEntries (insertKey k v es) = true := by
  induction es with
  | nil => simp [insertKey, wellFormedEntries, usable, value]
  | cons first rest ih =>
    obtain ⟨k', v'⟩ := first
    simp only [wellFormedEntries, Bool.and_eq_true, Bool.not_eq_true', List.any_eq_false,
      Bool.not_eq_true] at ok
    obtain ⟨⟨⟨usable', fresh⟩, value'⟩, later⟩ := ok
    simp only [insertKey]
    split
    · simp only [wellFormedEntries, Bool.and_eq_true, Bool.not_eq_true', List.any_eq_false,
        Bool.not_eq_true]
      exact ⟨⟨⟨usable', fresh⟩, value⟩, later⟩
    · rename_i apart
      simp only [wellFormedEntries, Bool.and_eq_true, Bool.not_eq_true', List.any_eq_false,
        Bool.not_eq_true]
      refine ⟨⟨⟨usable', fun e member => ?_⟩, value'⟩, ih later⟩
      rcases insertKeyMember member with rfl | ⟨w, before, _⟩
      · rw [sameSymmKey usable' usable]
        simpa using apart
      · exact fresh (e.1, w) before

theorem fromPairsFormed {pairs : List (Node × Node)}
    (ok : ∀ p ∈ pairs, p.1.hashable = true ∧ p.2.wellFormed = true) :
    wellFormedEntries (fromPairs pairs) = true := by
  have step (es : Entries) (formed : wellFormedEntries es = true) :
      wellFormedEntries (pairs.foldl (fun es p => insertKey p.1 p.2 es) es) = true := by
    induction pairs generalizing es with
    | nil => exact formed
    | cons p rest ih =>
      obtain ⟨here, later⟩ := List.forall_mem_cons.mp ok
      exact ih later _ (insertKeyFormed formed here.1 here.2)
  exact step [] rfl

theorem valueFormed {es : Entries} (ok : wellFormedEntries es = true) (key : String) :
    ((Entries.at? key es).getD .null).wellFormed = true := by
  induction es with
  | nil => rfl
  | cons first rest ih =>
    obtain ⟨k, v⟩ := first
    simp only [wellFormedEntries, Bool.and_eq_true] at ok
    cases k with
    | str s =>
      simp only [Entries.at?]
      split
      · exact ok.1.2
      · exact ih ok.2
    | _ => exact ih ok.2

end Node

namespace Parts

def wellFormed (parts : Parts) : Bool := parts.all Node.wellFormed

variable {parts : Parts}

theorem viewFormed (rows : parts.wellFormed = true) {n : Node} (ok : n.wellFormed = true) :
    (parts.view n).wellFormed = true := by
  simp only [wellFormed, List.all_eq_true] at rows
  cases n with
  | link i =>
    simp only [view]
    cases found : parts[i]? with
    | none => rfl
    | some row => exact rows row (List.mem_of_getElem? found)
  | _ => exact ok

theorem entriesView {n : Node} {es : Entries} (held : parts.entries n = .ok es) :
    parts.view n = .map es := by
  unfold entries at held
  split at held
  · rename_i shown
    rw [shown, Except.ok.inj held]
  · contradiction

theorem entriesFormed (rows : parts.wellFormed = true) {n : Node} (ok : n.wellFormed = true)
    {es : Entries} (held : parts.entries n = .ok es) : Node.wellFormedEntries es = true := by
  have shown := viewFormed rows ok
  simpa [entriesView held, Node.wellFormed] using shown

theorem fieldFormed (rows : parts.wellFormed = true) {n m : Node} (ok : n.wellFormed = true)
    {key : String} (found : parts.field n key = .ok m) : m.wellFormed = true := by
  have shown := viewFormed rows ok
  unfold field at found
  split at found
  · rename_i here
    cases found
    rw [here] at shown
    exact Node.valueFormed (by simpa [Node.wellFormed] using shown) key
  · contradiction

theorem orElseFormed {n default : Node} (left : n.wellFormed = true)
    (right : default.wellFormed = true) : (parts.orElse n default).wellFormed = true := by
  unfold orElse
  split
  · exact left
  · exact right

theorem closeInsideUsable {inner : Node → Node} {n : Node} (usable : n.hashable = true)
    (kept : ∀ m : Node, m.hashable = true → inner m = m) : closeInside inner n = n := by
  cases n with
  | pair a b =>
    simp only [Node.hashable, Bool.and_eq_true] at usable
    simp only [closeInside, kept a usable.1, kept b usable.2]
  | set _ | list _ | map _ | link _ | enclosing _ => simp [Node.hashable] at usable
  | _ => simp only [closeInside]

theorem closeAtUsable (fuel : Nat) (around : List (Option Nat)) {n : Node}
    (usable : n.hashable = true) : closeAt parts fuel around n = n := by
  induction fuel generalizing around n with
  | zero => rw [closeAt]
  | succ fuel ih =>
    cases n with
    | set _ | list _ | map _ | link _ | enclosing _ => simp [Node.hashable] at usable
    | _ => exact closeInsideUsable usable (fun m => ih (none :: around))

theorem closeInsideFormed {inner : Node → Node} {n : Node}
    (kept : ∀ m : Node, m.hashable = true → inner m = m)
    (formed : ∀ m : Node, m.wellFormed = true → (inner m).wellFormed = true)
    (ok : n.wellFormed = true) : (closeInside inner n).wellFormed = true := by
  cases n with
  | set items =>
    simp only [Node.wellFormed, List.all_eq_true] at ok
    simp only [closeInside, Node.wellFormed, List.all_map, List.all_eq_true, Function.comp_apply]
    intro item member
    rw [kept item (ok item member)]
    exact ok item member
  | pair a b =>
    simp only [Node.wellFormed, Bool.and_eq_true] at ok
    simp [closeInside, Node.wellFormed, formed a ok.1, formed b ok.2]
  | list items =>
    simp only [Node.wellFormed] at ok
    simp only [closeInside, Node.wellFormed, Node.wellFormedListIff, List.forall_mem_map]
    exact fun item member => formed item (Node.wellFormedListIff.mp ok item member)
  | map es =>
    simp only [Node.wellFormed] at ok
    obtain ⟨members, distinct⟩ := Node.wellFormedEntriesIff.mp ok
    simp only [closeInside, Node.wellFormed, Node.wellFormedEntriesIff, List.forall_mem_map,
      List.pairwise_map]
    exact ⟨fun e member => ⟨(members e member).1, formed _ (members e member).2⟩, distinct⟩
  | _ => simpa only [closeInside] using ok

theorem closeAtFormed (rows : parts.wellFormed = true) (fuel : Nat) (around : List (Option Nat))
    {n : Node} (ok : n.wellFormed = true) : (closeAt parts fuel around n).wellFormed = true := by
  induction fuel generalizing around n with
  | zero => rwa [closeAt]
  | succ fuel ih =>
    have kept around (m : Node) := @closeAtUsable parts fuel around m
    cases n with
    | link i =>
      rw [closeAt]
      split
      · rfl
      · exact closeInsideFormed (kept _) (fun m => ih _) (viewFormed rows ok)
    | _ => exact closeInsideFormed (kept (none :: around)) (fun m => ih (none :: around)) ok

theorem closeFormed (rows : parts.wellFormed = true) {n : Node} (ok : n.wellFormed = true) :
    (parts.close n).wellFormed = true :=
  closeAtFormed rows _ _ ok

end Parts

theorem readEachMember {α β : Type} {read : α → Except Fault β} {as : List α} {bs : List β}
    (ok : readEach read as = .ok bs) {b : β} (member : b ∈ bs) :
    ∃ a ∈ as, read a = .ok b := by
  induction as generalizing bs with
  | nil =>
    cases ok
    cases member
  | cons a rest ih =>
    obtain ⟨b', first, ok⟩ := Fault.bindOk ok
    obtain ⟨bs', others, ok⟩ := Fault.bindOk ok
    cases ok
    rcases List.mem_cons.mp member with rfl | inside
    · exact ⟨a, List.mem_cons_self, first⟩
    · obtain ⟨a', found, same⟩ := ih others inside
      exact ⟨a', List.mem_cons_of_mem a found, same⟩

def Content.wellFormed (c : Content) : Bool := c.mediaTypes.all (·.schema.wellFormed)

namespace Operation

def wellFormed (o : Operation) : Bool :=
  o.parameters.all (fun p => p.name.wellFormed && p.schema.wellFormed) &&
    o.request.all Content.wellFormed && o.responses.all (·.content.wellFormed)

variable {parts : Parts} {o : Operation}

theorem parameterFormed (ok : o.wellFormed = true) {p : Parameter} (member : p ∈ o.parameters) :
    p.name.wellFormed = true ∧ p.schema.wellFormed = true := by
  simp only [wellFormed, Bool.and_eq_true, List.all_eq_true] at ok
  exact ok.1.1 p member

theorem querySchemaFormed (ok : o.wellFormed = true) {schema : Node}
    (asked : o.querySchema parts = .ok (some schema)) : schema.wellFormed = true := by
  have query {p : Parameter} (member : p ∈ o.located parts "query") :=
    parameterFormed ok (List.mem_filter.mp member).1
  unfold querySchema at asked
  generalize o.located parts "query" = located at asked query
  cases located with
  | nil => cases asked
  | cons first rest =>
    simp only at asked
    generalize first :: rest = located at asked query
    obtain ⟨keys, read, last⟩ := Fault.bindOk asked
    cases last
    have pairs : Node.wellFormedEntries (Node.fromPairs keys) = true := by
      refine Node.fromPairsFormed fun pair member => ?_
      obtain ⟨p, inside, read⟩ := readEachMember read member
      obtain ⟨key, usable, last⟩ := Fault.bindOk read
      cases last
      simp only [nameKey] at usable
      split at usable
      · rename_i able
        cases usable
        exact ⟨able, (query inside).2⟩
      · contradiction
    have names : Node.wellFormedList
        ((located.filter (·.required)).map (·.name)) = true := by
      rw [Node.wellFormedListIff]
      intro n member
      obtain ⟨p, inside, rfl⟩ := List.mem_map.mp member
      exact (query (List.mem_filter.mp inside).1).1
    simp [Node.object, Node.wellFormed, Node.wellFormedEntries, Node.hashable, Node.same, pairs,
      names]

end Operation
end ClientGen
