import ClientGen.Proofs.Document.Inlining
import ClientGen.Proofs.Node.Closed

/-! Reading a document with its references inlined is reading the library that it was inlined from:
under a key of a value stands what the value under this key denotes. -/
namespace ClientGen

theorem Node.findKeyText (s : String) (es : Entries) :
    Node.findKey? (.str s) es = Entries.at? s es := by
  induction es with
  | nil => rfl
  | cons e rest ih =>
    obtain ⟨k, v⟩ := e
    unfold Node.findKey? at ih ⊢
    cases met : (Node.str s).same k with
    | true =>
      cases Node.sameTextIff.mp met
      simp [Entries.at?, Node.sameTextIff]
    | false =>
      have other : k ≠ .str s := fun same => by simp [Node.sameTextIff.mpr same] at met
      rw [List.find?_cons_of_neg (by simp [met]), ih]
      cases k with
      | str t => simp [Entries.at?, show t ≠ s from fun same => other (congrArg Node.str same)]
      | _ => rfl

theorem Node.anyText (s : String) (es : Entries) :
    es.any (fun e => (Node.str s).same e.1) = Entries.has s es := by
  rw [Entries.has, ← Node.findKeyText, Node.findKey?, Option.isSome_map]
  exact List.isSome_find?.symm

namespace Reference

theorem atIndex (key : String) (es : Entries) :
    Entries.at? key es = (indexOfKey? key es).bind fun i => (es[i]?).map (·.2) := by
  have later (e : Node × Node) (rest : Entries) (found : Option Nat) :
      (found.map (· + 1)).bind (fun i => ((e :: rest)[i]?).map (·.2)) =
        found.bind fun i => (rest[i]?).map (·.2) := by
    cases found <;> rfl
  induction es with
  | nil => rfl
  | cons e rest ih =>
    obtain ⟨k, v⟩ := e
    unfold indexOfKey? at ih ⊢
    rw [List.findIdx?_cons]
    cases k with
    | str s =>
      by_cases met : s = key
      · simp [Entries.at?, met]
      · simp only [Entries.at?, met, decide_false, Bool.false_eq_true, ↓reduceIte, later, ih]
    | _ => simp only [Entries.at?, Bool.false_eq_true, ↓reduceIte, later, ih]

theorem indexOfKeyOnly (key : String) (es : Entries) :
    indexOfKey? key es = (es.map Prod.fst).findIdx? fun k => match k with
      | .str s => s = key
      | _ => false := by
  rw [List.findIdx?_map]
  rfl

theorem indexOfKeys {es es' : Entries} (keys : es'.map Prod.fst = es.map Prod.fst) (key : String) :
    indexOfKey? key es' = indexOfKey? key es := by
  rw [indexOfKeyOnly, indexOfKeyOnly, keys]

theorem indexBound {key : String} {es : Entries} {i : Nat} (found : indexOfKey? key es = some i) :
    ∃ v, es[i]? = some (.str key, v) := by
  obtain ⟨bound, met, _⟩ := List.findIdx?_eq_some_iff_getElem.mp found
  refine ⟨es[i].2, ?_⟩
  rw [List.getElem?_eq_getElem bound]
  generalize es[i] = e at met
  obtain ⟨k, v⟩ := e
  cases k with
  | str s => rw [of_decide_eq_true met]
  | _ => cases met

theorem hasIndex (key : String) (es : Entries) :
    Entries.has key es = (indexOfKey? key es).isSome := by
  unfold Entries.has
  rw [atIndex]
  cases found : indexOfKey? key es with
  | none => rfl
  | some i =>
    obtain ⟨v, there⟩ := indexBound found
    simp [there]

theorem hasKeys {es es' : Entries} (keys : es'.map Prod.fst = es.map Prod.fst) (key : String) :
    Entries.has key es' = Entries.has key es := by
  rw [hasIndex, hasIndex, indexOfKeys keys]

theorem plainReference {es : Entries} (plain : Entries.has "$ref" es = false) :
    (Node.map es).reference? = none := by
  unfold Entries.has at plain
  rw [Option.isSome_eq_false_iff, Option.isNone_iff_eq_none] at plain
  simp [Node.reference?, plain]

theorem indexUnique {es : Entries} (ok : Node.wellFormedEntries es = true) {i : Nat} {key : String}
    {v : Node} (there : es[i]? = some (.str key, v)) : indexOfKey? key es = some i := by
  obtain ⟨bound, here⟩ := List.getElem?_eq_some_iff.mp there
  have apart := (Node.wellFormedEntriesIff.mp ok).2
  refine List.findIdx?_eq_some_iff_getElem.mpr ⟨bound, by simp [here], fun j before met => ?_⟩
  have other := List.pairwise_iff_getElem.mp apart j i (Nat.lt_trans before bound) bound before
  rw [here] at other
  generalize es[j] = e at met other
  obtain ⟨k, v⟩ := e
  cases k with
  | str s =>
    rw [of_decide_eq_true met] at other
    exact Bool.false_ne_true (other.symm.trans (Node.sameTextIff.mpr rfl))
  | _ => cases met

end Reference

namespace Document
open Reference Parts

theorem filledAt {value : Nat → Node} {es : Entries} {i : Nat} {e : Node × Node}
    (there : es[i]? = some e) : (filled value es)[i]? = some (e.1, value i) := by
  obtain ⟨bound, rfl⟩ := List.getElem?_eq_some_iff.mp there
  simp [filled, bound]

theorem filledKeys (value : Nat → Node) (es : Entries) :
    (filled value es).map Prod.fst = es.map Prod.fst := by
  refine List.ext_getElem? fun i => ?_
  cases there : es[i]? with
  | none =>
    have past := List.getElem?_eq_none_iff.mp there
    simp [filled, past]
  | some e => simp [filledAt there, there]

theorem filledFound (value : Nat → Node) (key : String) (es : Entries) :
    Entries.at? key (filled value es) = (indexOfKey? key es).map value := by
  rw [atIndex, indexOfKeys (filledKeys value es)]
  cases found : indexOfKey? key es with
  | none => rfl
  | some i =>
    obtain ⟨v, there⟩ := indexBound found
    simp [filledAt there]

def Under (library : Library) (p : Place) (key : String) (t : Target) : Prop :=
  ∃ es i, library.valueAt p = .map es ∧ indexOfKey? key es = some i ∧ library.Denotes (p.child i) t

section Reading

variable {library : Library} {w : Walk} {d : Document} (inlined : Inlined library w d) {v : Node}
  {p : Place}
include inlined

theorem Inlined.entriesStand {es : Entries} (stands : Stands library w d.parts v (.place p))
    (here : library.valueAt p = .map es) : ∃ es', d.parts.view v = .map es' ∧
      es'.map Prod.fst = es.map Prod.fst ∧ ∀ i e', es'[i]? = some e' →
        ∃ t, library.Denotes (p.child i) t ∧ Stands library w d.parts e'.2 t := by
  obtain ⟨value, shows, inner⟩ := inlined.mapShown stands here
  refine ⟨_, shows, filledKeys value es, fun i e' there => ?_⟩
  cases own : es[i]? with
  | none =>
    have past := List.getElem?_eq_none_iff.mp own
    simp [filled, past] at there
  | some e =>
    rw [filledAt own] at there
    cases there
    exact inner i (List.getElem?_eq_some_iff.mp own).1

theorem Inlined.fieldStands (stands : Stands library w d.parts v (.place p)) {key : String}
    {t : Target} (under : Under library p key t) :
    ∃ u, d.parts.field v key = .ok u ∧ Stands library w d.parts u t := by
  obtain ⟨es, i, here, found, denotes⟩ := under
  obtain ⟨value, shows, inner⟩ := inlined.mapShown stands here
  obtain ⟨_, there⟩ := indexBound found
  obtain ⟨u, denotes', stands'⟩ := inner i (List.getElem?_eq_some_iff.mp there).1
  cases denotes.symm.trans denotes'
  refine ⟨value i, ?_, stands'⟩
  simp [Parts.field, shows, filledFound, found]

theorem Inlined.lookupStands (stands : Stands library w d.parts v (.place p)) {key : String}
    {t : Target} (under : Under library p key t) :
    ∃ u, d.parts.lookup v (.str key) = .ok u ∧ Stands library w d.parts u t := by
  obtain ⟨u, field, stands'⟩ := inlined.fieldStands stands under
  obtain ⟨es, i, here, found, _⟩ := under
  obtain ⟨value, shows, _⟩ := inlined.mapShown stands here
  refine ⟨u, ?_, stands'⟩
  simp only [Parts.field, shows, filledFound, found, Option.map_some, Option.getD_some] at field
  cases field
  have text : d.parts.view (.str key) = .str key := rfl
  simp [Parts.lookup, shows, text, Node.hashable, Node.findKeyText, filledFound, found]

theorem Inlined.holdsStand (stands : Stands library w d.parts v (.place p)) {key : String}
    {t : Target} (under : Under library p key t) : d.parts.holds v = true := by
  obtain ⟨es, i, here, found, _⟩ := under
  obtain ⟨value, shows, _⟩ := inlined.mapShown stands here
  obtain ⟨_, there⟩ := indexBound found
  have member : (filled value es)[i]? = some (.str key, value i) := filledAt there
  cases inside : filled value es with
  | nil => simp [inside] at member
  | cons => simp [Parts.holds, shows, inside, Node.holds]

theorem Inlined.textShown {s : String} (shows : d.parts.view v = .str s) : v = .str s := by
  cases v with
  | link i =>
    rw [inlined.parts, Parts.view, List.getElem?_map] at shows
    cases row : (rowPlaces library w.references)[i]? with
    | none =>
      rw [row] at shows
      cases shows
    | some p =>
      rw [row] at shows
      have text : buildInside library w.references (rowPlaces library w.references)
        (librarySize library) p = .str s := shows
      have shape := (rowMember.mp (List.mem_of_getElem? row)).1
      have container : isContainer (buildInside library w.references
        (rowPlaces library w.references) (librarySize library) p) = true := insideContainer shape _
      rw [text] at container
      cases container
  | _ => exact shows

end Reading

inductive Within (d : Document) : Node → Prop
  | root : Within d d.root
  | item {outer items n} (within : Within d outer) (shows : d.parts.view outer = .list items)
      (member : n ∈ items) : Within d n
  | value {outer es e} (within : Within d outer) (shows : d.parts.view outer = .map es)
      (member : e ∈ es) : Within d e.2

theorem Within.lookup {d : Document} {v n : Node} (within : Within d v) (k : String)
    {es : Entries} (shows : d.parts.view v = .map es) (found : Entries.at? k es = some n) :
    Within d n := by
  rw [atIndex] at found
  obtain ⟨i, _, found⟩ := Option.bind_eq_some_iff.mp found
  obtain ⟨e, there, rfl⟩ := Option.map_eq_some_iff.mp found
  exact .value within shows (List.mem_of_getElem? there)

section Holding

variable {library : Library} {w : Walk} {d : Document} (inlined : Inlined library w d) {v : Node}
  {t : Target} (stands : Stands library w d.parts v t)
include inlined stands

theorem Inlined.mapStands {es : Entries} (shows : d.parts.view v = .map es) :
    ∃ q es', Stands library w d.parts v (.place q) ∧ library.valueAt q = .map es' := by
  obtain ⟨q, stands, container⟩ := inlined.containerStands stands (by rw [shows]; rfl)
  cases here : library.valueAt q with
  | map es' => exact ⟨q, es', stands, here⟩
  | list items =>
    obtain ⟨_, shows', _⟩ := inlined.listShown stands here
    cases shows.symm.trans shows'
  | _ => simp [here, isContainer] at container

theorem Inlined.listStands {items : List Node} (shows : d.parts.view v = .list items) :
    ∃ q items', Stands library w d.parts v (.place q) ∧ library.valueAt q = .list items' := by
  obtain ⟨q, stands, container⟩ := inlined.containerStands stands (by rw [shows]; rfl)
  cases here : library.valueAt q with
  | list items' => exact ⟨q, items', stands, here⟩
  | map es =>
    obtain ⟨_, shows', _⟩ := inlined.mapShown stands here
    cases shows.symm.trans shows'
  | _ => simp [here, isContainer] at container

end Holding

theorem Inlined.withinStands {library : Library} {w : Walk} {d : Document}
    (inlined : Inlined library w d) {v : Node} (within : Within d v) :
    ∃ t, Stands library w d.parts v t := by
  induction within with
  | root =>
    obtain ⟨t, _, stands⟩ := inlined.rootStands
    exact ⟨t, stands⟩
  | item _ shows member ih =>
    obtain ⟨t, stands⟩ := ih
    obtain ⟨q, items', stands, here⟩ := inlined.listStands stands shows
    obtain ⟨value, shows', inner⟩ := inlined.listShown stands here
    cases shows.symm.trans shows'
    obtain ⟨i, bound, rfl⟩ := List.mem_map.mp member
    obtain ⟨u, _, stands'⟩ := inner i (List.mem_range.mp bound)
    exact ⟨u, stands'⟩
  | value _ shows member ih =>
    obtain ⟨t, stands⟩ := ih
    obtain ⟨q, es', stands, here⟩ := inlined.mapStands stands shows
    obtain ⟨es, shows', _, inner⟩ := inlined.entriesStand stands here
    cases shows.symm.trans shows'
    obtain ⟨i, there⟩ := List.getElem?_of_mem member
    obtain ⟨u, _, stands'⟩ := inner i _ there
    exact ⟨u, stands'⟩

end Document
end ClientGen
