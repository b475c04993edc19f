import ClientGen.Proofs.Document.Walk
import ClientGen.Proofs.Node.Weight

/-! What a document with its references inlined shows. Every value in it stands for a target, a
place that is no reference or a character of a text: it shows what is there, and the values inside
it stand for what the places inside denote. -/
namespace ClientGen

namespace Reference

theorem Library.valueAtChild (library : Library) (p : Place) (i : Nat) :
    library.valueAt (p.child i) = (childAt? (library.valueAt p) i).getD .null := by
  have along (n : Node) (way : List Nat) :
      valueAlong n (way ++ [i]) = (childAt? (valueAlong n way) i).getD .null := by
    induction way generalizing n with
    | nil => rfl
    | cons j rest ih => exact ih _
  exact along _ _

theorem alongWeight (n : Node) (way : List Nat) : (valueAlong n way).weight ≤ n.weight := by
  induction way generalizing n with
  | nil => exact Nat.le_refl _
  | cons i rest ih =>
    refine Nat.le_trans (ih _) ?_
    cases found : childAt? n i with
    | none => exact Node.weightPositive n
    | some c => exact Nat.le_of_lt (childWeight found)

end Reference

namespace Document
open Reference

theorem childCounted {n : Node} {i : Nat} (child : i < childCount n) :
    ∃ c, childAt? n i = some c := by
  unfold childCount at child
  cases n with
  | list items => exact ⟨items[i], List.getElem?_eq_getElem child⟩
  | map entries => exact ⟨entries[i].2, by simp [childAt?, List.getElem?_eq_getElem child]⟩
  | _ => cases child

theorem childLighter (library : Library) {p : Place} {i : Nat}
    (child : i < childCount (library.valueAt p)) :
    (library.valueAt (p.child i)).weight < (library.valueAt p).weight := by
  obtain ⟨c, found⟩ := childCounted child
  rw [library.valueAtChild, found]
  exact childWeight found

theorem contentLighter {library : Library} {v : Volume} (member : v ∈ library) :
    v.content.weight < librarySize library := by
  have grows (vs : Library) (n : Nat) : n ≤ vs.foldl (fun n v => n + v.content.weight) n := by
    induction vs generalizing n with
    | nil => exact Nat.le_refl n
    | cons v rest ih => exact Nat.le_trans (Nat.le_add_right _ _) (ih _)
  have inside (vs : Library) (n : Nat) (member : v ∈ vs) :
      n + v.content.weight ≤ vs.foldl (fun n v => n + v.content.weight) n := by
    induction vs generalizing n with
    | nil => cases member
    | cons first rest ih =>
      rcases List.mem_cons.mp member with rfl | later
      · exact grows rest _
      · exact Nat.le_trans (by omega) (ih (n + first.content.weight) later)
  exact Nat.lt_of_lt_of_le (by omega) (inside library 1 member)

theorem librarySizeEnough (library : Library) (p : Place) :
    (library.valueAt p).weight ≤ librarySize library ∧
      (p.volume < library.length → (library.valueAt p).weight < librarySize library) := by
  have size : 0 < librarySize library := by
    cases library with
    | nil => exact Nat.zero_lt_one
    | cons v rest => exact Nat.lt_of_le_of_lt (Nat.zero_le _) (contentLighter List.mem_cons_self)
  have along : (library.valueAt p).weight ≤ (library.contentAt p.volume).weight :=
    alongWeight _ p.way
  cases found : library[p.volume]? with
  | none =>
    rw [Library.contentAt, found] at along
    exact ⟨Nat.le_trans along size, fun there => absurd (List.getElem?_eq_none_iff.mp found)
      (Nat.not_le_of_lt there)⟩
  | some v =>
    rw [Library.contentAt, found] at along
    have lighter := Nat.lt_of_le_of_lt along (contentLighter (List.mem_of_getElem? found))
    exact ⟨Nat.le_of_lt lighter, fun _ => lighter⟩

variable {library : Library} {references : List (Place × Target)} {rows : List Place}

theorem rowsGathered {p : Place} (ps before : List Place) :
    p ∈ ps.foldl (fun rows p =>
      if isContainer (library.valueAt p) && !rows.contains p then rows ++ [p] else rows) before ↔
    p ∈ before ∨ isContainer (library.valueAt p) = true ∧ p ∈ ps := by
  induction ps generalizing before with
  | nil => simp
  | cons q rest ih =>
    rw [List.foldl_cons, ih]
    by_cases row : isContainer (library.valueAt q) = true ∧ q ∉ before
    · simp only [row.1, List.contains_eq_mem, row.2, decide_false, Bool.not_false,
        Bool.and_true, ↓reduceIte, List.mem_append, List.mem_cons]
      grind
    · simp only [List.contains_eq_mem, Bool.and_eq_true, Bool.not_eq_true',
        decide_eq_false_iff_not, row, ↓reduceIte, List.mem_cons]
      grind

theorem rowMember {p : Place} : p ∈ rowPlaces library references ↔
    isContainer (library.valueAt p) = true ∧
      ((∃ x, (x, .place p) ∈ references) ∨ p ∈ sharedPlaces library references) := by
  have told : p ∈ denotedPlaces references.reverse ↔ ∃ x, (x, .place p) ∈ references := by
    simp only [denotedPlaces, List.mem_filterMap, List.mem_reverse]
    constructor
    · rintro ⟨⟨x, t⟩, member, found⟩
      cases t <;> cases found
      exact ⟨x, member⟩
    · rintro ⟨x, member⟩
      exact ⟨_, member, rfl⟩
  refine (rowsGathered _ []).trans ?_
  simp [told]

theorem sharedMember {p : Place} (member : p ∈ sharedPlaces library references) :
    (library.valueAt p).reference? = none ∧ ∃ q, references.lookup .origin = some (.place q) ∧
      ∃ i < childCount (library.valueAt q), p = q.child i := by
  unfold sharedPlaces at member
  split at member
  · rename_i q found
    obtain ⟨inside, plain⟩ := List.mem_filter.mp member
    obtain ⟨i, child, rfl⟩ := List.mem_map.mp inside
    exact ⟨Option.isNone_iff_eq_none.mp plain, q, found, i, List.mem_range.mp child, rfl⟩
  · cases member

def shown (library : Library) (references : List (Place × Target)) : Target → Node
  | .place q => buildInside library references (rowPlaces library references)
    (librarySize library) q
  | .character c => .str (String.singleton c)

theorem insideLeaf {q : Place} (leaf : isContainer (library.valueAt q) = false) (fuel : Nat) :
    buildInside library references rows fuel q = library.valueAt q := by
  unfold buildInside contents
  cases here : library.valueAt q with
  | list | map => simp [here, isContainer] at leaf
  | _ => rfl

theorem insideContainer {q : Place} (container : isContainer (library.valueAt q) = true)
    (fuel : Nat) : isContainer (buildInside library references rows fuel q) = true := by
  unfold buildInside contents
  cases here : library.valueAt q with
  | list | map => rfl
  | _ => simp [here, isContainer] at container

theorem standSame {fuel fuel' : Nat} {q : Place} (same : q ∉ rows →
      buildInside library references rows fuel q = buildInside library references rows fuel' q) :
    standing rows (buildInside library references rows fuel) q =
      standing rows (buildInside library references rows fuel') q := by
  unfold standing
  cases row : rows.idxOf? q with
  | some i => rfl
  | none => exact same (List.idxOf?_eq_none_iff.mp row)

theorem leafBehind {p q : Place} (found : references.lookup p = some (.place q))
    (none : q ∉ rowPlaces library references) : isContainer (library.valueAt q) = false := by
  obtain ⟨before, after, whole, _⟩ := List.lookup_eq_some_iff.mp found
  cases container : isContainer (library.valueAt q) with
  | false => rfl
  | true => exact absurd (rowMember.mpr ⟨container, .inl ⟨p, whole ▸ by simp⟩⟩) none

theorem insideSame {fuel fuel' : Nat} {p : Place} (enough : (library.valueAt p).weight ≤ fuel)
    (enough' : (library.valueAt p).weight ≤ fuel') :
    buildInside library references (rowPlaces library references) fuel p =
      buildInside library references (rowPlaces library references) fuel' p := by
  induction fuel generalizing fuel' p with
  | zero => exact absurd enough (Nat.not_le_of_lt (Node.weightPositive _))
  | succ fuel ih =>
    have some := Node.weightPositive (library.valueAt p)
    obtain ⟨fuel', rfl⟩ : ∃ k, fuel' = k + 1 := ⟨fuel' - 1, by omega⟩
    have children (i : Nat) (child : i < childCount (library.valueAt p)) :
        build library references (rowPlaces library references) (fuel + 1) (p.child i) =
          build library references (rowPlaces library references) (fuel' + 1) (p.child i) := by
      have lighter := childLighter library child
      rw [build, build]
      cases found : references.lookup (p.child i) with
      | none => exact standSame fun _ => ih (by omega) (by omega)
      | some t =>
        cases t with
        | character c => rfl
        | place q =>
          refine standSame fun none => ?_
          have leaf := leafBehind found none
          rw [insideLeaf leaf, insideLeaf leaf]
    unfold buildInside contents
    split
    · rename_i items here
      refine congrArg Node.list (List.map_congr_left fun i member => children i ?_)
      simpa [here, childCount] using member
    · rename_i entries here
      refine congrArg Node.map (List.ext_getElem? fun i => ?_)
      rw [List.getElem?_zipWith, List.getElem?_zipWith]
      by_cases child : i < entries.length
      · simp [child, children i (by simpa [here, childCount] using child)]
      · simp [child]
    · rfl

def libraryOf (n : Node) : Except Fault Library := do
  return Library.ofNode (← settled [] (normal n))

structure Inlined (library : Library) (w : Walk) (d : Document) : Prop where
  opened : 0 < library.length
  walked : Walked library w
  root : d.root = buildRoot library w.references (rowPlaces library w.references)
    (librarySize library)
  parts : d.parts = (rowPlaces library w.references).map (buildInside library w.references
    (rowPlaces library w.references) (librarySize library))

theorem gatherAdds (fuel : Nat) (cited : List (List Char × String)) (library : Library) :
    library <+: Library.gather fuel cited library := by
  induction fuel generalizing cited library with
  | zero => exact List.prefix_refl _
  | succ fuel ih =>
    cases cited with
    | nil => exact List.prefix_refl _
    | cons first rest =>
      rw [Library.gather]
      split
      · exact ih _ _
      · split
        · exact (List.prefix_append _ _).trans (ih _ _)
        · exact ih _ _

theorem libraryOpens {n : Node} {library : Library} (opened : libraryOf n = .ok library) :
    ∃ n', settled [] (normal n) = .ok n' ∧ library[0]? = some ⟨[], [], n'⟩ := by
  obtain ⟨n', inner, opened⟩ := Fault.bindOk opened
  cases opened
  refine ⟨n', inner, ?_⟩
  obtain ⟨more, whole⟩ := gatherAdds (Library.gatherFuel (texts n')) ((texts n').map ([], ·))
    [⟨[], [], n'⟩]
  rw [Library.ofNode, ← whole]
  rfl

theorem dereferenceInlined {n : Node} {d : Document} (done : dereference n = .ok d) :
    ∃ library w, libraryOf n = .ok library ∧ Inlined library w d := by
  obtain ⟨_, n', w, inner, walked, rfl, _⟩ := dereferenced done
  have opened : libraryOf n = .ok (Library.ofNode n') := by
    simp only [libraryOf, inner, bind, Except.bind, pure, Except.pure]
  obtain ⟨_, _, first⟩ := libraryOpens opened
  obtain ⟨there, _⟩ := List.getElem?_eq_some_iff.mp first
  exact ⟨_, w, opened, there, walkEnds walked, rfl, rfl⟩

theorem Walked.row {w : Walk} (walked : Walked library w) {p : Place}
    (member : p ∈ rowPlaces library w.references) : isContainer (library.valueAt p) = true ∧
      ∃ x ∈ w.visited, library.Denotes x (.place p) := by
  obtain ⟨shape, ⟨x, reference⟩ | shared⟩ := rowMember.mp member
  · obtain ⟨met, _, denotes⟩ := walked.told _ reference
    exact ⟨shape, x, met, denotes⟩
  · obtain ⟨plain, q, found, i, child, rfl⟩ := sharedMember shared
    obtain ⟨before, after, whole, _⟩ := List.lookup_eq_some_iff.mp found
    obtain ⟨met, _, denotes⟩ := walked.told (.origin, .place q) (whole ▸ by simp)
    exact ⟨shape, _, walked.below met denotes child, library.plainDenotes plain⟩

-- A value shows what its target is, and the walk has met what lies below.
structure Stands (library : Library) (w : Walk) (parts : Parts) (v : Node) (t : Target) : Prop where
  shows : parts.view v = parts.view (shown library w.references t)
  below : ∀ q, t = .place q → ∀ i < childCount (library.valueAt q), q.child i ∈ w.visited

theorem viewContainer (parts : Parts) {n : Node} (container : isContainer n = true) :
    parts.view n = n := by
  cases n <;> first | rfl | cases container

section Standing

variable {w : Walk} {d : Document} (inlined : Inlined library w d)
include inlined

theorem Inlined.viewLink {q : Place} {i : Nat}
    (row : (rowPlaces library w.references).idxOf? q = some i) :
    d.parts.view (.link i) = shown library w.references (.place q) ∧
      d.parts.view (shown library w.references (.place q)) =
        shown library w.references (.place q) := by
  obtain ⟨bound, same, _⟩ := List.idxOf?_eq_some_iff.mp row
  have member : q ∈ rowPlaces library w.references := same ▸ List.getElem_mem bound
  refine ⟨?_, viewContainer _ (insideContainer (rowMember.mp member).1 _)⟩
  rw [inlined.parts, Parts.view, List.getElem?_map, List.getElem?_eq_getElem bound, same]
  rfl

theorem Inlined.viewStand {q : Place} {fuel : Nat}
    (same : q ∉ rowPlaces library w.references →
      buildInside library w.references (rowPlaces library w.references) fuel q =
        shown library w.references (.place q)) :
    d.parts.view (standing (rowPlaces library w.references) (buildInside library w.references
        (rowPlaces library w.references) fuel) q) =
      d.parts.view (shown library w.references (.place q)) := by
  unfold standing
  cases row : (rowPlaces library w.references).idxOf? q with
  | none => rw [same (List.idxOf?_eq_none_iff.mp row)]
  | some i =>
    obtain ⟨link, own⟩ := inlined.viewLink row
    rw [own]
    exact link

theorem Inlined.stands {p : Place} {t : Target} (met : p ∈ w.visited)
    (denotes : library.Denotes p t) {fuel : Nat} (enough : (library.valueAt p).weight ≤ fuel) :
    Stands library w d.parts
      (build library w.references (rowPlaces library w.references) (fuel + 1) p) t := by
  refine ⟨?_, ?_⟩
  · rw [build, inlined.walked.lookup met denotes]
    cases reference : (library.valueAt p).reference? with
    | none =>
      cases denotes.symm.trans (library.plainDenotes reference)
      exact inlined.viewStand fun _ =>
        insideSame enough (librarySizeEnough library p).1
    | some text =>
      cases t with
      | character c => rfl
      | place q =>
        refine inlined.viewStand fun none => ?_
        have found := inlined.walked.lookup met denotes
        rw [reference] at found
        have leaf := leafBehind found none
        rw [insideLeaf leaf, shown, insideLeaf leaf]
  · rintro q rfl i child
    exact inlined.walked.below met denotes child

theorem Inlined.childStands {q : Place} {i : Nat} (child : i < childCount (library.valueAt q))
    (met : q.child i ∈ w.visited) : ∃ t, library.Denotes (q.child i) t ∧ Stands library w d.parts
      (build library w.references (rowPlaces library w.references) (librarySize library)
        (q.child i)) t := by
  have lighter := childLighter library child
  have enough := (librarySizeEnough library q).1
  obtain ⟨fuel, size⟩ : ∃ k, librarySize library = k + 1 := ⟨librarySize library - 1, by omega⟩
  obtain ⟨t, entered⟩ := inlined.walked.entered _ met
  rw [size]
  exact ⟨t, entered.denotes, inlined.stands met entered.denotes (by omega)⟩

theorem Inlined.rootStands :
    ∃ t, library.Denotes .origin t ∧ Stands library w d.parts d.root t := by
  have lighter := (librarySizeEnough library .origin).2 inlined.opened
  obtain ⟨fuel, size⟩ : ∃ k, librarySize library = k + 1 := ⟨librarySize library - 1, by omega⟩
  obtain ⟨t, entered⟩ := inlined.walked.entered _ inlined.walked.origin
  refine ⟨t, entered.denotes, ?_⟩
  have own := inlined.stands inlined.walked.origin entered.denotes
    (show (library.valueAt .origin).weight ≤ fuel by omega)
  rw [inlined.root, buildRoot]
  split
  · rename_i p found
    rw [inlined.walked.lookup inlined.walked.origin entered.denotes] at found
    split at found
    · contradiction
    · cases found
      exact ⟨rfl, own.below⟩
  · rw [size]
    exact own

end Standing

def filled (value : Nat → Node) (es : Entries) : Entries :=
  (List.range es.length).zipWith (fun i e => (e.1, value i)) es

section Showing

variable {w : Walk} {d : Document} (inlined : Inlined library w d) {v : Node}
include inlined

theorem Inlined.mapShown {q : Place} {es : Entries} (stands : Stands library w d.parts v (.place q))
    (here : library.valueAt q = .map es) : ∃ value, d.parts.view v = .map (filled value es) ∧
      ∀ i < es.length, ∃ t, library.Denotes (q.child i) t ∧
        Stands library w d.parts (value i) t := by
  have count : childCount (library.valueAt q) = es.length := by rw [here, childCount]
  refine ⟨fun i => build library w.references (rowPlaces library w.references)
    (librarySize library) (q.child i), ?_, fun i child => ?_⟩
  · rw [stands.shows, shown, viewContainer _ (insideContainer (by rw [here, isContainer]) _)]
    simp only [buildInside, contents, here]
    rfl
  · exact inlined.childStands (count ▸ child) (stands.below q rfl i (count ▸ child))

theorem Inlined.listShown {q : Place} {items : List Node}
    (stands : Stands library w d.parts v (.place q)) (here : library.valueAt q = .list items) :
    ∃ value, d.parts.view v = .list ((List.range items.length).map value) ∧
      ∀ i < items.length, ∃ t, library.Denotes (q.child i) t ∧
        Stands library w d.parts (value i) t := by
  have count : childCount (library.valueAt q) = items.length := by rw [here, childCount]
  refine ⟨fun i => build library w.references (rowPlaces library w.references)
    (librarySize library) (q.child i), ?_, fun i child => ?_⟩
  · rw [stands.shows, shown, viewContainer _ (insideContainer (by rw [here, isContainer]) _)]
    simp only [buildInside, contents, here]
  · exact inlined.childStands (count ▸ child) (stands.below q rfl i (count ▸ child))

omit inlined in
theorem Stands.leafShown {parts : Parts} {q : Place} (stands : Stands library w parts v (.place q))
    (leaf : isContainer (library.valueAt q) = false) :
    parts.view v = parts.view (library.valueAt q) := by
  rw [stands.shows, shown, insideLeaf leaf]

theorem Inlined.containerStands {t : Target} (stands : Stands library w d.parts v t)
    (container : isContainer (d.parts.view v) = true) :
    ∃ q, Stands library w d.parts v (.place q) ∧ isContainer (library.valueAt q) = true := by
  cases t with
  | character c =>
    rw [stands.shows] at container
    cases container
  | place q =>
    cases there : isContainer (library.valueAt q) with
    | true => exact ⟨q, stands, there⟩
    | false =>
      -- Only a link shows a container without being one: it leads to a row.
      have leaf := stands.leafShown there
      rw [leaf] at container
      cases link : library.valueAt q with
      | link j =>
        rw [link, inlined.parts, Parts.view, List.getElem?_map] at container
        cases row : (rowPlaces library w.references)[j]? with
        | none =>
          rw [row] at container
          cases container
        | some r =>
          obtain ⟨shape, x, met, denotes⟩ := inlined.walked.row (List.mem_of_getElem? row)
          refine ⟨r, ⟨?_, ?_⟩, shape⟩
          · rw [leaf, link, shown, viewContainer _ (insideContainer shape _), inlined.parts,
              Parts.view, List.getElem?_map, row]
            rfl
          · rintro _ ⟨⟩ i child
            exact inlined.walked.below met denotes child
      | _ =>
        rw [link] at there container
        simp [isContainer, Parts.view] at there container

end Showing

end Document
end ClientGen
