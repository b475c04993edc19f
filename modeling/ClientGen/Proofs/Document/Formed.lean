import ClientGen.Document
import ClientGen.Proofs.Node.Formed

/-! Reading and inlining keep documents well formed: what JSON text is read as, and the root and the
parts of a document with its references inlined. -/
namespace ClientGen

namespace Json

theorem scalarFormed {c c' : Cursor} {n : Node} (read : readScalar c = .ok (n, c')) :
    n.wellFormed = true := by
  unfold readScalar at read
  split at read
  · rename_i w found
    cases read
    have member := List.mem_of_find?_eq_some found
    simp only [wordValues, List.mem_cons, List.not_mem_nil, or_false] at member
    rcases member with rfl | rfl | rfl | rfl | rfl | rfl <;> rfl
  · split at read
    · contradiction
    · obtain ⟨value, number, read⟩ := Fault.bindOk read
      cases read
      unfold Numeral.toNode at number
      split at number
      · split at number
        · contradiction
        · cases number
          rfl
      · cases number
        rfl

structure ReadsFormed (fuel : Nat) : Prop where
  value : ∀ {levels c n c'}, readValue fuel levels c = .ok (n, c') → n.wellFormed = true
  items : ∀ {levels c done n c'}, (∀ m ∈ done, m.wellFormed = true) →
    readItems fuel levels c done = .ok (n, c') → n.wellFormed = true
  members : ∀ {levels c done n c'}, (∀ e ∈ done, e.1.hashable = true ∧ e.2.wellFormed = true) →
    readMembers fuel levels c done = .ok (n, c') → n.wellFormed = true

section Step
variable {fuel : Nat} {levels : Levels} {c c' : Cursor} {n : Node}

theorem valueFormed (ih : ReadsFormed fuel)
    (read : readValue (fuel + 1) levels c = .ok (n, c')) : n.wellFormed = true := by
  rw [readValue] at read
  split at read
  · obtain ⟨s, _, read⟩ := Fault.bindOk read
    cases read
    rfl
  · obtain ⟨inner, _, read⟩ := Fault.bindOk read
    dsimp only at read
    split at read
    · cases read
      rfl
    · exact ih.members (by simp) read
  · obtain ⟨inner, _, read⟩ := Fault.bindOk read
    dsimp only at read
    split at read
    · cases read
      rfl
    · exact ih.items (by simp) read
  · exact scalarFormed read

theorem itemsFormed (ih : ReadsFormed fuel) {done : List Node}
    (before : ∀ m ∈ done, m.wellFormed = true)
    (read : readItems (fuel + 1) levels c done = .ok (n, c')) : n.wellFormed = true := by
  rw [readItems] at read
  obtain ⟨⟨item, _⟩, first, read⟩ := Fault.bindOk read
  have all : ∀ m ∈ item :: done, m.wellFormed = true :=
    List.forall_mem_cons.mpr ⟨ih.value first, before⟩
  dsimp only at read
  split at read
  · cases read
    simp only [Node.wellFormed, Node.wellFormedListIff, List.mem_reverse]
    exact all
  · exact ih.items all read
  · contradiction

theorem membersFormed (ih : ReadsFormed fuel) {done : Entries}
    (before : ∀ e ∈ done, e.1.hashable = true ∧ e.2.wellFormed = true)
    (read : readMembers (fuel + 1) levels c done = .ok (n, c')) : n.wellFormed = true := by
  rw [readMembers] at read
  split at read
  · obtain ⟨⟨key, _⟩, _, read⟩ := Fault.bindOk read
    dsimp only at read
    split at read
    · obtain ⟨⟨inner, _⟩, first, read⟩ := Fault.bindOk read
      have all : ∀ e ∈ (.str (String.ofList key), inner) :: done,
          e.1.hashable = true ∧ e.2.wellFormed = true :=
        List.forall_mem_cons.mpr ⟨⟨rfl, ih.value first⟩, before⟩
      dsimp only at read
      split at read
      · cases read
        rw [Node.wellFormed]
        exact Node.fromPairsFormed fun e member => all e (List.mem_reverse.mp member)
      · exact ih.members all read
      · contradiction
    · contradiction
  · contradiction

end Step

theorem readsFormed (fuel : Nat) : ReadsFormed fuel := by
  induction fuel with
  | zero => constructor <;> simp [readValue, readItems, readMembers]
  | succ fuel ih => exact ⟨valueFormed ih, itemsFormed ih, membersFormed ih⟩

theorem documentFormed {s : List Char} {levels : Levels} {n : Node}
    (read : readDocument s levels = .ok n) : n.wellFormed = true := by
  unfold readDocument at read
  split at read
  · contradiction
  · obtain ⟨⟨value, c⟩, first, read⟩ := Fault.bindOk read
    dsimp only at read
    split at read
    · cases read
      exact (readsFormed _).value first
    · contradiction

end Json

namespace Document

theorem entriesChanged {es es' : Entries} (ok : Node.wellFormedEntries es = true)
    (keys : es'.map Prod.fst = es.map Prod.fst) (values : ∀ e ∈ es', e.2.wellFormed = true) :
    Node.wellFormedEntries es' = true := by
  obtain ⟨members, distinct⟩ := Node.wellFormedEntriesIff.mp ok
  refine Node.wellFormedEntriesIff.mpr ⟨fun e member => ⟨?_, values e member⟩, ?_⟩
  · have key : e.1 ∈ es.map Prod.fst := keys ▸ List.mem_map_of_mem member
    obtain ⟨e', inside, same⟩ := List.mem_map.mp key
    exact same ▸ (members e' inside).1
  · have pairs : (es.map Prod.fst).Pairwise (fun a b => a.same b = false) :=
      List.pairwise_map.mpr distinct
    exact List.pairwise_map.mp (keys ▸ pairs)

theorem mapFormed {es : Entries} {f : Node × Node → Node × Node}
    (ok : Node.wellFormedEntries es = true) (keys : ∀ e, (f e).1 = e.1)
    (values : ∀ e ∈ es, (f e).2.wellFormed = true) :
    Node.wellFormedEntries (es.map f) = true := by
  refine entriesChanged ok ?_ (List.forall_mem_map.mpr values)
  rw [List.map_map]
  exact List.map_congr_left fun e _ => keys e

theorem normalKeys (es : Entries) : (normalEntries es).map Prod.fst = es.map Prod.fst := by
  induction es with
  | nil => rfl
  | cons e rest ih => simp [normalEntries, ih]

mutual
theorem normalFormed {n : Node} (ok : n.wellFormed = true) : (normal n).wellFormed = true := by
  match n with
  | .pair a b =>
    simp only [Node.wellFormed, Bool.and_eq_true] at ok
    simp [normal, Node.wellFormed, Node.wellFormedList, normalFormed ok.1, normalFormed ok.2]
  | .bytes content =>
    simp [normal, Node.wellFormed, Node.wellFormedListIff]
  | .list items =>
    simp only [normal, Node.wellFormed] at ok ⊢
    exact normalListFormed ok
  | .map es =>
    simp only [normal, Node.wellFormed] at ok ⊢
    exact entriesChanged ok (normalKeys es) (normalEntriesFormed ok)
  | .null | .bool _ | .int _ | .float _ | .str _ | .date _ | .datetime _ | .set _ | .link _ |
    .enclosing _ => exact ok
termination_by structural n
theorem normalListFormed {ns : List Node} (ok : Node.wellFormedList ns = true) :
    Node.wellFormedList (normalList ns) = true := by
  match ns with
  | [] => rfl
  | n :: rest =>
    simp only [Node.wellFormedList, Bool.and_eq_true] at ok
    simp [normalList, Node.wellFormedList, normalFormed ok.1, normalListFormed ok.2]
termination_by structural ns
theorem normalEntriesFormed {es : Entries} (ok : Node.wellFormedEntries es = true) :
    ∀ e ∈ normalEntries es, e.2.wellFormed = true := by
  match es with
  | [] => simp [normalEntries]
  | (k, v) :: rest =>
    simp only [Node.wellFormedEntries, Bool.and_eq_true] at ok
    rw [normalEntries, List.forall_mem_cons]
    exact ⟨normalFormed ok.1.2, normalEntriesFormed ok.2⟩
termination_by structural es
end

end Document

namespace Reference

theorem readContentFormed {bytes : List UInt8} {n : Node} (read : readContent bytes = .ok n) :
    n.wellFormed = true := by
  unfold readContent at read
  split at read
  · contradiction
  · split at read
    · rename_i found
      cases read
      exact Json.documentFormed found
    · split at read <;> contradiction

theorem contentFormed {address : List Char} {n : Node} (read : content address = .ok n) :
    n.wellFormed = true := by
  unfold content at read
  dsimp only at read
  split at read
  · contradiction
  · split at read
    · obtain ⟨bytes, _, read⟩ := Fault.bindOk read
      exact readContentFormed read
    · split at read <;> contradiction

theorem settleEntrySame {base : List Char} {e e' : Node × Node}
    (settled : settleEntry base e = .ok e') :
    e'.1 = e.1 ∧ (e.2.wellFormed = true → e'.2.wellFormed = true) := by
  unfold settleEntry at settled
  split at settled
  · obtain ⟨inner, _, settled⟩ := Fault.bindOk settled
    split at settled <;> cases settled
    · exact ⟨rfl, fun _ => rfl⟩
    · exact ⟨rfl, id⟩
  · cases settled
    exact ⟨rfl, id⟩

theorem settleEachFormed {base : List Char} {es es' : Entries}
    (settled : es.mapM (settleEntry base) = .ok es') :
    es'.map Prod.fst = es.map Prod.fst ∧
      ((∀ e ∈ es, e.2.wellFormed = true) → ∀ e ∈ es', e.2.wellFormed = true) := by
  induction es generalizing es' with
  | nil =>
    cases settled
    exact ⟨rfl, by simp⟩
  | cons e rest ih =>
    rw [List.mapM_cons] at settled
    obtain ⟨e', first, settled⟩ := Fault.bindOk settled
    obtain ⟨others, later, settled⟩ := Fault.bindOk settled
    cases settled
    obtain ⟨key, value⟩ := settleEntrySame first
    obtain ⟨keys, values⟩ := ih later
    refine ⟨by simp [key, keys], fun ok => ?_⟩
    obtain ⟨here, after⟩ := List.forall_mem_cons.mp ok
    exact List.forall_mem_cons.mpr ⟨value here, values after⟩

theorem settledKeys {base : List Char} {es es' : Entries}
    (ok : settledEntries base es = .ok es') : es'.map Prod.fst = es.map Prod.fst := by
  induction es generalizing es' with
  | nil =>
    cases ok
    rfl
  | cons e rest ih =>
    obtain ⟨first, _, ok⟩ := Fault.bindOk ok
    obtain ⟨others, later, ok⟩ := Fault.bindOk ok
    cases ok
    simp [ih later]

mutual
theorem settledFormed {base : List Char} {n m : Node} (ok : n.wellFormed = true)
    (done : settled base n = .ok m) : m.wellFormed = true := by
  match n with
  | .list items =>
    obtain ⟨items', inner, done⟩ := Fault.bindOk done
    cases done
    simp only [Node.wellFormed] at ok ⊢
    exact settledListFormed ok inner
  | .map es =>
    obtain ⟨es', inner, done⟩ := Fault.bindOk done
    obtain ⟨es'', last, done⟩ := Fault.bindOk done
    cases done
    simp only [Node.wellFormed] at ok ⊢
    obtain ⟨keys, values⟩ := settleEachFormed last
    exact Document.entriesChanged ok (keys.trans (settledKeys inner))
      (values (settledEntriesFormed ok inner))
  | .null | .bool _ | .int _ | .float _ | .str _ | .date _ | .datetime _ | .bytes _ | .set _ |
    .pair _ _ | .link _ | .enclosing _ =>
    cases done
    exact ok
termination_by structural n
theorem settledListFormed {base : List Char} {ns ms : List Node}
    (ok : Node.wellFormedList ns = true) (done : settledList base ns = .ok ms) :
    Node.wellFormedList ms = true := by
  match ns with
  | [] =>
    cases done
    rfl
  | n :: rest =>
    obtain ⟨first, inner, done⟩ := Fault.bindOk done
    obtain ⟨others, later, done⟩ := Fault.bindOk done
    cases done
    simp only [Node.wellFormedList, Bool.and_eq_true] at ok ⊢
    exact ⟨settledFormed ok.1 inner, settledListFormed ok.2 later⟩
termination_by structural ns
theorem settledEntriesFormed {base : List Char} {es es' : Entries}
    (ok : Node.wellFormedEntries es = true) (done : settledEntries base es = .ok es') :
    ∀ e ∈ es', e.2.wellFormed = true := by
  match es with
  | [] =>
    cases done
    simp
  | (k, v) :: rest =>
    obtain ⟨first, inner, done⟩ := Fault.bindOk done
    obtain ⟨others, later, done⟩ := Fault.bindOk done
    cases done
    simp only [Node.wellFormedEntries, Bool.and_eq_true] at ok
    exact List.forall_mem_cons.mpr ⟨settledFormed ok.1.2 inner, settledEntriesFormed ok.2 later⟩
termination_by structural es
end

namespace Library

def WellFormed (library : Library) : Prop := ∀ v ∈ library, v.content.wellFormed = true

theorem openedFormed {c : Citation} {v : Volume} (opened : c.opened = .ok v) :
    v.content.wellFormed = true := by
  unfold Citation.opened at opened
  split at opened
  · contradiction
  · rename_i read
    obtain ⟨n, done, opened⟩ := Fault.bindOk opened
    cases opened
    exact settledFormed (contentFormed read) done

theorem gatherFormed (fuel : Nat) (cited : List (List Char × String)) {library : Library}
    (ok : library.WellFormed) : (gather fuel cited library).WellFormed := by
  induction fuel generalizing cited library with
  | zero => exact ok
  | succ fuel ih =>
    cases cited with
    | nil => exact ok
    | cons first rest =>
      rw [gather]
      split
      · exact ih _ ok
      · split
        · rename_i v _ opened
          refine ih _ fun w member => ?_
          rcases List.mem_append.mp member with before | new
          · exact ok w before
          · cases List.mem_singleton.mp new
            exact openedFormed opened
        · exact ih _ ok

theorem ofNodeFormed {n : Node} (ok : n.wellFormed = true) : (ofNode n).WellFormed := by
  refine gatherFormed _ _ fun v member => ?_
  cases List.mem_singleton.mp member
  exact ok

theorem childFormed {n : Node} (ok : n.wellFormed = true) (i : Nat) :
    ((childAt? n i).getD .null).wellFormed = true := by
  cases found : childAt? n i with
  | none => rfl
  | some m =>
    unfold childAt? at found
    split at found
    · simp only [Node.wellFormed] at ok
      exact Node.wellFormedListIff.mp ok m (List.mem_of_getElem? found)
    · simp only [Node.wellFormed] at ok
      obtain ⟨e, inside, rfl⟩ := Option.map_eq_some_iff.mp found
      exact ((Node.wellFormedEntriesIff.mp ok).1 e (List.mem_of_getElem? inside)).2
    · contradiction

theorem valueAlongFormed {n : Node} (ok : n.wellFormed = true) (way : List Nat) :
    (valueAlong n way).wellFormed = true := by
  induction way generalizing n with
  | nil => exact ok
  | cons i rest ih => exact ih (childFormed ok i)

theorem valueAtFormed {library : Library} (ok : library.WellFormed) (p : Place) :
    (library.valueAt p).wellFormed = true := by
  refine valueAlongFormed ?_ p.way
  unfold contentAt
  cases found : library[p.volume]? with
  | none => rfl
  | some v => exact ok v (List.mem_of_getElem? found)

end Library
end Reference

namespace Document
open Reference

variable {library : Library} {references : List (Place × Target)} {rows : List Place}

theorem filledFormed {value : Nat → Node} (formed : ∀ i, (value i).wellFormed = true)
    (is : List Nat) (es : Entries) (long : is.length = es.length) :
    (is.zipWith (fun i e => (e.1, value i)) es).map Prod.fst = es.map Prod.fst ∧
      ∀ e ∈ is.zipWith (fun i e => (e.1, value i)) es, e.2.wellFormed = true := by
  induction es generalizing is with
  | nil => simp
  | cons e rest ih =>
    cases is with
    | nil => simp at long
    | cons i is =>
      obtain ⟨keys, values⟩ := ih is (by simpa using long)
      exact ⟨by simp [keys], List.forall_mem_cons.mpr ⟨formed i, values⟩⟩

theorem insideFormed (ok : library.WellFormed) {fuel : Nat}
    (inner : ∀ p, (build library references rows fuel p).wellFormed = true) (p : Place) :
    (buildInside library references rows fuel p).wellFormed = true := by
  have shown := Library.valueAtFormed ok p
  unfold buildInside contents
  split
  · simp only [Node.wellFormed, Node.wellFormedListIff, List.forall_mem_map]
    exact fun i _ => inner (p.child i)
  · rename_i es here
    rw [here] at shown
    simp only [Node.wellFormed] at shown ⊢
    obtain ⟨keys, values⟩ := filledFormed (fun i => inner (p.child i)) (List.range es.length) es
      List.length_range
    exact entriesChanged shown keys values
  · exact shown

theorem buildFormed (ok : library.WellFormed) (fuel : Nat) (here : Place) :
    (build library references rows fuel here).wellFormed = true := by
  induction fuel generalizing here with
  | zero =>
    rw [build]
    rfl
  | succ fuel ih =>
    have stand (p : Place) :
        (standing rows (buildInside library references rows fuel) p).wellFormed = true := by
      unfold standing
      split
      · rfl
      · exact insideFormed ok ih p
    rw [build]
    split
    · rfl
    · exact stand _
    · exact stand _

theorem dereferenceFormed {n : Node} {d : Document} (ok : n.wellFormed = true)
    (done : dereference n = .ok d) :
    d.root.wellFormed = true ∧ d.parts.wellFormed = true := by
  obtain ⟨_, n', w, inner, _, rfl, _⟩ := dereferenced done
  have library := Library.ofNodeFormed (settledFormed (normalFormed ok) inner)
  have inside := @insideFormed _ w.references (rowPlaces (Library.ofNode n') w.references)
    library _ (buildFormed library (librarySize (Library.ofNode n')))
  constructor
  · simp only [assembled, buildRoot]
    split
    · exact inside _
    · exact buildFormed library _ _
  · simp only [assembled, Parts.wellFormed, List.all_map, List.all_eq_true, Function.comp_apply]
    exact fun p _ => inside p

end Document
end ClientGen
