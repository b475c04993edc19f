import ClientGen.Generate
import ClientGen.Proofs.Document.Formed
import ClientGen.Proofs.Grouping.Formed

/-! A run works on well-formed resources: stamping, inlining and grouping keep what the document as
read has. -/
namespace ClientGen.Generate

theorem stampEntriesKeys (names : List Nat → Option Node) (way : List Nat) (i : Nat) (es : Entries) :
    (stampEntries names way i es).map Prod.fst = es.map Prod.fst := by
  induction es generalizing i with
  | nil => rfl
  | cons e rest ih => simp [stampEntries, ih]

theorem stampedWithFormed {name : Node} {es : Entries} (usable : name.hashable = true)
    (ok : Node.wellFormedEntries es = true) :
    Node.wellFormedEntries (stampedWith name es) = true := by
  unfold stampedWith
  split
  · exact ok
  · exact Node.insertKeyFormed ok rfl (Node.wellFormedOfUsable usable)

def Usable (names : List Nat → Option Node) : Prop :=
  ∀ way name, names way = some name → name.hashable = true

mutual
theorem stampAtFormed {names : List Nat → Option Node} (usable : Usable names) (way : List Nat)
    {n : Node} (ok : n.wellFormed = true) : (stampAt names way n).wellFormed = true := by
  match n with
  | .pair a b =>
    simp only [Node.wellFormed, Bool.and_eq_true] at ok
    simp [stampAt, Node.wellFormed, stampAtFormed usable _ ok.1,
      stampAtFormed usable _ ok.2]
  | .list items =>
    simp only [stampAt, Node.wellFormed] at ok ⊢
    exact stampItemsFormed usable way 0 ok
  | .map es =>
    simp only [stampAt, Node.wellFormed] at ok ⊢
    have inner : Node.wellFormedEntries (stampEntries names way 0 es) = true :=
      Document.entriesChanged ok (stampEntriesKeys _ _ _ _) (stampEntriesFormed usable way 0 ok)
    cases named : names way with
    | none => exact inner
    | some name => exact stampedWithFormed (usable way name named) inner
  | .null | .bool _ | .int _ | .float _ | .str _ | .date _ | .datetime _ | .set _ | .bytes _ |
    .link _ | .enclosing _ => exact ok
termination_by structural n
theorem stampItemsFormed {names : List Nat → Option Node} (usable : Usable names)
    (way : List Nat) (i : Nat) {ns : List Node} (ok : Node.wellFormedList ns = true) :
    Node.wellFormedList (stampItems names way i ns) = true := by
  match ns with
  | [] => rfl
  | n :: rest =>
    simp only [Node.wellFormedList, Bool.and_eq_true] at ok
    simp [stampItems, Node.wellFormedList, stampAtFormed usable _ ok.1,
      stampItemsFormed usable way _ ok.2]
termination_by structural ns
theorem stampEntriesFormed {names : List Nat → Option Node} (usable : Usable names)
    (way : List Nat) (i : Nat) {es : Entries} (ok : Node.wellFormedEntries es = true) :
    ∀ e ∈ stampEntries names way i es, e.2.wellFormed = true := by
  match es with
  | [] => simp [stampEntries]
  | (k, v) :: rest =>
    simp only [Node.wellFormedEntries, Bool.and_eq_true] at ok
    rw [stampEntries, List.forall_mem_cons]
    exact ⟨stampAtFormed usable _ ok.1.2, stampEntriesFormed usable way _ ok.2⟩
termination_by structural es
end

theorem lastKeyMember {selected : Nat → Bool} {i : Nat} {es : Entries} {k : Node}
    (found : lastKey selected i es = some k) :
    ∃ (l : Nat) (v : Node), es[l]? = some (k, v) ∧ selected (i + l) = true := by
  induction es generalizing i with
  | nil => cases found
  | cons e rest ih =>
    simp only [lastKey, Option.or_eq_some_iff] at found
    rcases found with later | ⟨_, here⟩
    · obtain ⟨l, v, there, met⟩ := ih later
      exact ⟨l + 1, v, there, by rwa [← Nat.add_assoc, Nat.add_right_comm]⟩
    · split at here
      · rename_i met
        cases here
        exact ⟨0, e.2, rfl, met⟩
      · contradiction

theorem namesUsable {raw schemas : Node} {all : Entries} (ok : raw.wellFormed = true)
    (found : Grouping.schemas [] raw = .ok schemas) (held : Parts.entries [] schemas = .ok all)
    (sharing : Sharing) : Usable fun way =>
      lastKey (fun l => sharing.same way (schemasWay raw ++ [l])) 0 all := by
  intro way name named
  obtain ⟨l, v, there, _⟩ := lastKeyMember named
  have formed := Parts.entriesFormed rfl (Grouping.schemasFormed rfl ok found) held
  exact ((Node.wellFormedEntriesIff.mp formed).1 _ (List.mem_of_getElem? there)).1

theorem stampedFormed {raw n : Node} {sharing : Sharing} (ok : raw.wellFormed = true)
    (done : stamped raw sharing = .ok n) : n.wellFormed = true := by
  obtain ⟨schemas, found, done⟩ := Fault.bindOk done
  obtain ⟨entries, held, done⟩ := Fault.bindOk done
  cases done
  exact stampAtFormed (namesUsable ok found held sharing) [] ok

theorem inlinedFormed {raw : Node} {sharing : Sharing} {parsed : Parsed}
    (ok : raw.wellFormed = true) (done : (inlined raw sharing).result = .ok parsed) :
    parsed.document.root.wellFormed = true ∧ parsed.document.parts.wellFormed = true := by
  obtain ⟨n, stamps, done, _⟩ := Trail.bindEnds done
  obtain ⟨document, dereferenced, done, _⟩ := Trail.bindEnds done
  obtain ⟨_, _, done, _⟩ := Trail.bindEnds done
  obtain ⟨_, _, done, _⟩ := Trail.bindEnds done
  obtain ⟨_, _, done, _⟩ := Trail.bindEnds done
  obtain ⟨_, _, done, _⟩ := Trail.bindEnds done
  obtain ⟨_, _, done, _⟩ := Trail.bindEnds done
  cases done
  exact Document.dereferenceFormed (stampedFormed ok stamps) dereferenced

theorem resourcesFormed {raw : Node} {sharing : Sharing} {parsed : Parsed} {rs : List Resource}
    (ok : raw.wellFormed = true) (parses : (inlined raw sharing).result = .ok parsed)
    (groups : (Grouping.build parsed.document (some parsed.schemas)).result = .ok rs) :
    parsed.document.parts.wellFormed = true ∧ ∀ r ∈ rs, r.wellFormed = true := by
  obtain ⟨root, parts⟩ := inlinedFormed ok parses
  exact ⟨parts, Grouping.buildFormed parts root groups⟩

end ClientGen.Generate
