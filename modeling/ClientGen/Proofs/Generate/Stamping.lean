import ClientGen.Proofs.Document.Fields
import ClientGen.Proofs.Generate.Formed
import Mathlib.Data.List.Forall2

/-! Stamps in a library. In the library of a stamped document every component schema that is no
reference carries its name, and at every other place the keys of a map are those that the document
itself writes there. -/
namespace ClientGen

namespace Reference

theorem settledEach {base : List Char} {es es' : Entries} (done : settledEntries base es = .ok es') :
    List.Forall₂ (fun e e' => e'.1 = e.1 ∧ settled base e.2 = .ok e'.2) es es' := by
  induction es generalizing es' with
  | nil =>
    cases done
    exact .nil
  | cons e rest ih =>
    obtain ⟨first, here, done⟩ := Fault.bindOk done
    obtain ⟨others, later, done⟩ := Fault.bindOk done
    cases done
    exact .cons ⟨rfl, here⟩ (ih later)

structure SettledEntry (base : List Char) (e e' : Node × Node) : Prop where
  key : e'.1 = e.1
  value : settled base e.2 = .ok e'.2 ∨ e.1 = .str "$ref" ∧ (∃ s, e'.2 = .str s) ∧
    ∃ inner, settled base e.2 = .ok inner ∧ inner.reference? ≠ none

theorem settleEntryTells {base : List Char} {e e' : Node × Node}
    (done : settleEntry base e = .ok e') :
    e' = e ∨ e.1 = .str "$ref" ∧ e.2.reference? ≠ none ∧ ∃ s, e' = (e.1, .str s) := by
  unfold settleEntry at done
  split at done
  · rename_i key reference
    obtain ⟨inner, _, done⟩ := Fault.bindOk done
    split at done <;> cases done
    · exact .inr ⟨key, by simp [reference], _, rfl⟩
    · exact .inl rfl
  · cases done
    exact .inl rfl

theorem settleEach {base : List Char} {es middle es' : Entries}
    (inner : List.Forall₂ (fun e e' => e'.1 = e.1 ∧ settled base e.2 = .ok e'.2) es middle)
    (last : middle.mapM (settleEntry base) = .ok es') : List.Forall₂ (SettledEntry base) es es' := by
  induction inner generalizing es' with
  | nil =>
    cases last
    exact .nil
  | @cons e e' es middle here _ ih =>
    rw [List.mapM_cons] at last
    obtain ⟨e'', first, last⟩ := Fault.bindOk last
    obtain ⟨others, later, last⟩ := Fault.bindOk last
    cases last
    refine .cons ?_ (ih later)
    rcases settleEntryTells first with rfl | ⟨key, reference, s, rfl⟩
    · exact ⟨here.1, .inl here.2⟩
    · exact ⟨here.1, .inr ⟨here.1 ▸ key, ⟨s, rfl⟩, e'.2, here.2, reference⟩⟩

theorem settledMap {base : List Char} {es : Entries} {m : Node}
    (done : settled base (.map es) = .ok m) :
    ∃ es', m = .map es' ∧ List.Forall₂ (SettledEntry base) es es' := by
  obtain ⟨middle, inner, done⟩ := Fault.bindOk done
  obtain ⟨es', last, done⟩ := Fault.bindOk done
  cases done
  exact ⟨es', rfl, settleEach (settledEach inner) last⟩

theorem settledMapKeys {base : List Char} {es es' : Entries}
    (each : List.Forall₂ (SettledEntry base) es es') :
    es'.map Prod.fst = es.map Prod.fst := by
  induction each with
  | nil => rfl
  | cons here _ ih => rw [List.map_cons, List.map_cons, here.key, ih]

theorem settledItems {base : List Char} {items items' : List Node}
    (done : settledList base items = .ok items') :
    List.Forall₂ (fun n n' => settled base n = .ok n') items items' := by
  induction items generalizing items' with
  | nil =>
    cases done
    exact .nil
  | cons n rest ih =>
    obtain ⟨first, here, done⟩ := Fault.bindOk done
    obtain ⟨others, later, done⟩ := Fault.bindOk done
    cases done
    exact .cons here (ih later)

theorem atIndexBoth {α β : Type} {R : α → β → Prop} {as : List α} {bs : List β}
    (each : List.Forall₂ R as bs) (i : Nat) : (as[i]? = none ∧ bs[i]? = none) ∨
      ∃ a b, as[i]? = some a ∧ bs[i]? = some b ∧ R a b := by
  induction each generalizing i with
  | nil => exact .inl ⟨rfl, rfl⟩
  | cons here _ ih =>
    cases i with
    | zero => exact .inr ⟨_, _, rfl, rfl, here⟩
    | succ i => exact ih i

theorem alongLeaf {n : Node} (leaf : Document.isContainer n = false) (way : List Nat)
    (es : Entries) : valueAlong n way ≠ .map es := by
  induction way generalizing n with
  | nil =>
    rintro rfl
    cases leaf
  | cons i rest ih =>
    have none : childAt? n i = none := by
      cases n <;> first | rfl | cases leaf
    rw [valueAlong, none]
    exact ih rfl

def Kept (apart : List Nat → Prop) (n m : Node) : Prop :=
  ∀ way es', valueAlong m way = .map es' →
    apart way ∨ ∃ es, valueAlong n way = .map es ∧ es'.map Prod.fst = es.map Prod.fst

theorem keptSame (apart : List Nat → Prop) (n : Node) : Kept apart n n :=
  fun _ es' here => .inr ⟨es', here, rfl⟩

theorem Kept.trans {apart : List Nat → Prop} {a b c : Node} (first : Kept apart a b)
    (second : Kept (fun _ => False) b c) : Kept apart a c := by
  intro way es'' here
  obtain ⟨es', there, keys'⟩ := (second way es'' here).resolve_left id
  refine (first way es' there).imp_right ?_
  rintro ⟨es, origin, keys⟩
  exact ⟨es, origin, keys'.trans keys⟩

theorem keptMap {apart : List Nat → Prop} {es es' : Entries}
    (top : apart [] ∨ es'.map Prod.fst = es.map Prod.fst)
    (values : ∀ i e', es'[i]? = some e' → (∀ way es'', valueAlong e'.2 way = .map es'' →
      apart (i :: way)) ∨ ∃ e, es[i]? = some e ∧ Kept (fun way => apart (i :: way)) e.2 e'.2) :
    Kept apart (.map es) (.map es') := by
  intro way es'' here
  cases way with
  | nil =>
    cases here
    exact top.imp_right fun keys => ⟨es, rfl, keys⟩
  | cons i rest =>
    rw [valueAlong, childAt?] at here
    cases there : es'[i]? with
    | none =>
      rw [there] at here
      exact absurd here (alongLeaf rfl rest es'')
    | some e' =>
      rw [there] at here
      rcases values i e' there with out | ⟨e, own, kept⟩
      · exact .inl (out rest es'' here)
      · refine (kept rest es'' here).imp_right ?_
        rintro ⟨inner, along, keys⟩
        exact ⟨inner, by rw [valueAlong, childAt?, own]; exact along, keys⟩

theorem keptSettled {base : List Char} {n m : Node} (done : settled base n = .ok m) :
    Kept (fun _ => False) n m := by
  intro way
  induction way generalizing n m with
  | nil =>
    rintro es' rfl
    cases n with
    | map es =>
      obtain ⟨_, same, each⟩ := settledMap done
      cases same
      exact .inr ⟨es, rfl, settledMapKeys each⟩
    | list items =>
      obtain ⟨_, _, done⟩ := Fault.bindOk done
      cases done
    | _ => cases done
  | cons i rest ih =>
    intro es'' here
    cases n with
    | map es =>
      obtain ⟨es', rfl, each⟩ := settledMap done
      rw [valueAlong, childAt?] at here
      rcases atIndexBoth each i with ⟨_, past⟩ | ⟨e, e', own, there, entry⟩
      · rw [past] at here
        exact absurd here (alongLeaf rfl rest es'')
      · rw [there] at here
        rcases entry.value with value | ⟨_, ⟨s, text⟩, _⟩
        · refine (ih value es'' here).imp_right ?_
          rintro ⟨inner, along, keys⟩
          exact ⟨inner, by rw [valueAlong, childAt?, own]; exact along, keys⟩
        · exact absurd here (alongLeaf (by simp [text, Document.isContainer]) rest es'')
    | list items =>
      obtain ⟨items', inner, done⟩ := Fault.bindOk done
      cases done
      rw [valueAlong, childAt?] at here
      rcases atIndexBoth (settledItems inner) i with ⟨_, past⟩ | ⟨n, n', own, there, value⟩
      · rw [past] at here
        exact absurd here (alongLeaf rfl rest es'')
      · rw [there] at here
        refine (ih value es'' here).imp_right ?_
        rintro ⟨inner, along, keys⟩
        exact ⟨inner, by rw [valueAlong, childAt?, own]; exact along, keys⟩
    | _ =>
      cases done
      exact .inr ⟨es'', here, rfl⟩

end Reference

namespace Document
open Reference

theorem normalEach (es : Entries) : normalEntries es = es.map fun e => (e.1, normal e.2) := by
  induction es with
  | nil => rfl
  | cons e rest ih => simp [normalEntries, ih]

theorem usableMapless {n : Node} (usable : n.hashable = true) (way : List Nat) (es : Entries) :
    valueAlong (normal n) way ≠ .map es := by
  cases n with
  | pair a b =>
    simp only [Node.hashable, Bool.and_eq_true] at usable
    rw [normal]
    rcases way with _ | ⟨_ | _ | _, rest⟩
    · rintro ⟨⟩
    · exact usableMapless usable.1 rest es
    · exact usableMapless usable.2 rest es
    · exact alongLeaf rfl rest es
  | bytes content =>
    rw [normal]
    cases way with
    | nil => rintro ⟨⟩
    | cons i rest =>
      rw [valueAlong, childAt?, List.getElem?_map]
      cases content[i]? <;> exact alongLeaf rfl rest es
  | null | bool _ | int _ | float _ | str _ | date _ | datetime _ => exact alongLeaf rfl way es
  | set _ | list _ | map _ | link _ | enclosing _ => cases usable
termination_by structural n

end Document

namespace Generate
open Reference Document

structure Steps (raw : Node) (top inner all : Entries) (i j k : Nat) (name v : Node) : Prop where
  root : raw = .map top
  components : top[i]? = some (.str "components", .map inner)
  schemas : inner[j]? = some (.str "schemas", .map all)
  entry : all[k]? = some (name, v)

def Component (raw : Node) (way : List Nat) (name : Node) (own : Entries) : Prop :=
  (∃ top inner all i j k, Steps raw top inner all i j k name (.map own) ∧ way = [i, j, k]) ∧
    Entries.has "$ref" own = false

theorem insertKeyAt {k v : Node} {es : Entries} {i : Nat} {e : Node × Node}
    (there : (Node.insertKey k v es)[i]? = some e) : e.2 = v ∨ es[i]? = some e := by
  induction es generalizing i with
  | nil =>
    cases i with
    | zero =>
      cases there
      exact .inl rfl
    | succ i => cases there
  | cons first rest ih =>
    obtain ⟨k', v'⟩ := first
    simp only [Node.insertKey] at there
    split at there
    · cases i with
      | zero =>
        cases there
        exact .inl rfl
      | succ i => exact .inr there
    · cases i with
      | zero => exact .inr there
      | succ i => exact ih there

theorem insertKeyHas {key stamp : String} (other : stamp ≠ key) (v : Node) (es : Entries) :
    Entries.has key (Node.insertKey (.str stamp) v es) = Entries.has key es := by
  unfold Entries.has
  induction es with
  | nil => simp [Node.insertKey, Entries.at?, other]
  | cons first rest ih =>
    obtain ⟨k, u⟩ := first
    simp only [Node.insertKey]
    split
    · rename_i met
      cases Node.sameTextIff.mp met
      simp [Entries.at?, other]
    · cases k with
      | str t =>
        simp only [Entries.at?]
        split
        · rfl
        · exact ih
      | _ => exact ih

theorem stampItemsAt (names : List Nat → Option Node) (way : List Nat) (i : Nat) (ns : List Node)
    (l : Nat) :
    (stampItems names way i ns)[l]? = ns[l]?.map (stampAt names (way ++ [i + l])) := by
  induction ns generalizing i l with
  | nil => rfl
  | cons n rest ih =>
    cases l with
    | zero => rfl
    | succ l =>
      rw [stampItems, List.getElem?_cons_succ, List.getElem?_cons_succ, ih, Nat.add_right_comm,
        Nat.add_assoc]

theorem stampEntriesAt (names : List Nat → Option Node) (way : List Nat) (i : Nat) (es : Entries)
    (l : Nat) : (stampEntries names way i es)[l]? =
      es[l]?.map fun e => (e.1, stampAt names (way ++ [i + l]) e.2) := by
  induction es generalizing i l with
  | nil => rfl
  | cons e rest ih =>
    cases l with
    | zero => rfl
    | succ l =>
      rw [stampEntries, List.getElem?_cons_succ, List.getElem?_cons_succ, ih, Nat.add_right_comm,
        Nat.add_assoc]

theorem normalItemsAt (ns : List Node) (i : Nat) : (normalList ns)[i]? = ns[i]?.map normal := by
  induction ns generalizing i with
  | nil => rfl
  | cons n rest ih =>
    cases i with
    | zero => rfl
    | succ i => exact ih i

theorem stampedChild {names : List Nat → Option Node} {way : List Nat} {n v : Node} {i : Nat}
    (there : childAt? (normal (stampAt names way n)) i = some v) :
    (∃ name, names way = some name ∧ v = normal name) ∨
      ∃ c, childAt? (normal n) i = some (normal c) ∧
        v = normal (stampAt names (way ++ [i]) c) := by
  have inside {es : Entries} {e : Node × Node} (there : (stampEntries names way 0 es)[i]? = some e) :
      ∃ c, childAt? (normal (.map es)) i = some (normal c) ∧
        normal e.2 = normal (stampAt names (way ++ [i]) c) := by
    rw [stampEntriesAt, Nat.zero_add] at there
    obtain ⟨e', own, rfl⟩ := Option.map_eq_some_iff.mp there
    exact ⟨e'.2, by rw [normal, childAt?, normalEach, List.getElem?_map, own]; rfl, rfl⟩
  cases n with
  | map es =>
    rw [stampAt, normal, childAt?, normalEach, List.getElem?_map, Option.map_map] at there
    obtain ⟨e, stands, rfl⟩ := Option.map_eq_some_iff.mp there
    cases named : names way with
    | none =>
      rw [named] at stands
      exact .inr (inside stands)
    | some name =>
      rw [named] at stands
      dsimp only [stampedWith] at stands
      split at stands
      · exact .inr (inside stands)
      · rcases insertKeyAt stands with new | old
        · exact .inl ⟨name, rfl, by simp [new]⟩
        · exact .inr (inside old)
  | list items =>
    rw [stampAt, normal, childAt?, normalItemsAt, stampItemsAt, Nat.zero_add, Option.map_map] at there
    obtain ⟨c, own, rfl⟩ := Option.map_eq_some_iff.mp there
    exact .inr ⟨c, by rw [normal, childAt?, normalItemsAt, own]; rfl, rfl⟩
  | pair a b =>
    rcases i with _ | _ | i
    · cases there
      exact .inr ⟨a, rfl, rfl⟩
    · cases there
      exact .inr ⟨b, rfl, rfl⟩
    · cases there
  | bytes content =>
    have there : (content.map fun b => Node.int b.toNat)[i]? = some v := there
    rw [List.getElem?_map] at there
    obtain ⟨b, own, rfl⟩ := Option.map_eq_some_iff.mp there
    exact .inr ⟨.int b.toNat, by rw [normal, childAt?, List.getElem?_map, own]; rfl, rfl⟩
  | _ => cases there

def Stamped (names : List Nat → Option Node) (way : List Nat) (n : Node) (q : List Nat) : Prop :=
  ∃ name own, names (way ++ q) = some name ∧ valueAlong (normal n) q = .map own ∧
    Entries.has "$ref" own = false

theorem stampedTop {names : List Nat → Option Node} {way : List Nat} {n : Node} {es' : Entries}
    (here : normal (stampAt names way n) = .map es') :
    Stamped names way n [] ∨ ∃ es, normal n = .map es ∧ es'.map Prod.fst = es.map Prod.fst := by
  cases n with
  | map es =>
    rw [stampAt, normal] at here
    cases here
    rw [normal]
    have keys : (stampEntries names way 0 es).map Prod.fst = (normalEntries es).map Prod.fst := by
      rw [stampEntriesKeys, normalKeys]
    cases named : names way with
    | none => exact .inr ⟨_, rfl, by rw [normalKeys, keys]⟩
    | some name =>
      dsimp only [stampedWith]
      rw [hasKeys (stampEntriesKeys names way 0 es) "$ref"]
      split
      · exact .inr ⟨_, rfl, by rw [normalKeys, keys]⟩
      · rename_i plain
        refine .inl ⟨name, normalEntries es, by rw [List.append_nil, named], rfl, ?_⟩
        rw [hasKeys (normalKeys es)]
        simpa using plain
  | _ => cases here

theorem keptStamps {names : List Nat → Option Node} (usable : Usable names) (way : List Nat)
    (n : Node) : Kept (Stamped names way n) (normal n) (normal (stampAt names way n)) := by
  intro q
  induction q generalizing n way with
  | nil => exact fun es' here => stampedTop here
  | cons i rest ih =>
    intro es' here
    rw [valueAlong] at here
    cases there : childAt? (normal (stampAt names way n)) i with
    | none =>
      rw [there] at here
      exact absurd here (alongLeaf rfl rest es')
    | some v =>
      rw [there] at here
      rcases stampedChild there with ⟨name, named, rfl⟩ | ⟨c, own, rfl⟩
      · exact absurd here (usableMapless (usable way name named) rest es')
      · refine (ih (way ++ [i]) c es' here).imp ?_ ?_
        · rintro ⟨name, inner, named, along, plain⟩
          refine ⟨name, inner, by simpa using named, ?_, plain⟩
          rw [valueAlong, own]
          exact along
        · rintro ⟨es, along, keys⟩
          exact ⟨es, by rw [valueAlong, own]; exact along, keys⟩

theorem viewMap {n : Node} {es : Entries} (shows : Parts.view [] n = .map es) : n = .map es := by
  cases n with
  | link i => simp [Parts.view] at shows
  | _ => exact shows

theorem fieldAt {n : Node} {key : String} {es : Entries}
    (field : Parts.field [] n key = .ok (.map es)) :
    ∃ own i, n = .map own ∧ own[i]? = some (.str key, .map es) ∧ keyPlace key n = i := by
  unfold Parts.field at field
  split at field
  · rename_i own shows
    cases viewMap shows
    rw [Except.ok.injEq, atIndex] at field
    cases found : indexOfKey? key own with
    | none => simp [found] at field
    | some i =>
      obtain ⟨v, there⟩ := indexBound found
      rw [found, Option.bind_some, there] at field
      cases field
      exact ⟨own, i, rfl, there, by simp [keyPlace, found]⟩
  · contradiction

theorem heldMap {n : Node} {es : Entries} {i : Nat} {e : Node × Node}
    (shows : Parts.orElse [] n (.map []) = .map es) (there : es[i]? = some e) : n = .map es := by
  unfold Parts.orElse at shows
  split at shows
  · exact shows
  · cases shows
    cases there

theorem tableSteps {raw schemas : Node} {all : Entries} {l : Nat} {name v : Node}
    (found : Grouping.schemas [] raw = .ok schemas) (held : Parts.entries [] schemas = .ok all)
    (there : all[l]? = some (name, v)) :
    ∃ top inner i j, Steps raw top inner all i j l name v ∧ schemasWay raw = [i, j] := by
  obtain ⟨components, field, found⟩ := Fault.bindOk found
  obtain ⟨table, field', found⟩ := Fault.bindOk found
  cases found
  cases heldMap (viewMap (Parts.entriesView held)) there
  obtain ⟨inner, j, shows, atSchemas, place'⟩ := fieldAt field'
  cases heldMap shows atSchemas
  obtain ⟨top, i, rfl, atComponents, place⟩ := fieldAt field
  refine ⟨top, inner, i, j, ⟨rfl, atComponents, atSchemas, there⟩, ?_⟩
  rw [shows] at place'
  simp [schemasWay, place, childAt?, atComponents, place']

theorem stampedKept {raw s : Node} (formed : raw.wellFormed = true) (done : stamped raw = .ok s) :
    Kept (fun way => ∃ name own, Component raw way name own) (normal raw) (normal s) := by
  obtain ⟨schemas, found, done⟩ := Fault.bindOk done
  obtain ⟨all, held, done⟩ := Fault.bindOk done
  cases done
  have usable := namesUsable formed found held []
  intro q es' here
  refine (keptStamps usable [] raw q es' here).imp_left ?_
  rintro ⟨name, own, named, along, plain⟩
  obtain ⟨l, v, there, met⟩ := lastKeyMember named
  obtain ⟨top, inner, i, j, steps, way⟩ := tableSteps found held there
  have stands : q = [i, j, l] := by simpa [Sharing.same, way] using met
  obtain ⟨rfl, atComponents, atSchemas, _⟩ := id steps
  have shows : normal v = .map own := by
    rw [stands] at along
    simpa [valueAlong, normal, childAt?, normalEach, atComponents, atSchemas, there] using along
  cases v with
  | map schema =>
    cases shows
    rw [hasKeys (normalKeys schema)] at plain
    exact ⟨name, schema, ⟨top, inner, all, i, j, l, steps, stands⟩, plain⟩
  | _ => cases shows

def Consistent (sharing : Sharing) (raw : Node) : Prop :=
  ∀ p q, sharing.same p q = true → valueAlong raw p = valueAlong raw q

def Latest (sharing : Sharing) (raw : Node) (way : List Nat) : Prop :=
  ∀ i j k l, way = [i, j, k] → k < l → (∃ name own, Component raw [i, j, l] name own) →
    sharing.same way [i, j, l] = false

theorem consistentAlone (raw : Node) : Consistent [] raw := by
  intro p q same
  have here : p = q := by simpa [Sharing.same] using same
  rw [here]

theorem latestAlone (raw : Node) (way : List Nat) : Latest [] raw way := by
  rintro i j k l rfl later _
  simp [Sharing.same, Nat.ne_of_lt later]

theorem lastKeyNone {selected : Nat → Bool} {i : Nat} {es : Entries}
    (never : ∀ l < es.length, selected (i + l) = false) : lastKey selected i es = none := by
  cases found : lastKey selected i es with
  | none => rfl
  | some k =>
    obtain ⟨l, v, there, met⟩ := lastKeyMember found
    rw [never l (List.getElem?_eq_some_iff.mp there).1] at met
    contradiction

theorem lastKeyLatest {selected : Nat → Bool} {i k : Nat} {es : Entries} {name v : Node}
    (there : es[k]? = some (name, v)) (here : selected (i + k) = true)
    (later : ∀ l < es.length, k < l → selected (i + l) = false) :
    lastKey selected i es = some name := by
  induction es generalizing i k with
  | nil => cases there
  | cons e rest ih =>
    rw [lastKey]
    cases k with
    | zero =>
      cases there
      have past : lastKey selected (i + 1) rest = none := lastKeyNone fun l bound => by
        have other := later (l + 1) (Nat.succ_lt_succ bound) (Nat.succ_pos l)
        rwa [← Nat.add_assoc, Nat.add_right_comm] at other
      simp [past, show selected i = true from here]
    | succ k =>
      have found : lastKey selected (i + 1) rest = some name :=
        ih there (by rwa [Nat.add_right_comm, Nat.add_assoc]) fun l bound past => by
          have other := later (l + 1) (Nat.succ_lt_succ bound) (Nat.succ_lt_succ past)
          rwa [← Nat.add_assoc, Nat.add_right_comm] at other
      rw [found]
      rfl

def Restamped (s : Node) (top inner all : Entries) (i j k : Nat) (name : Node) (own : Entries) :
    Prop :=
  ∃ top' inner' all' own',
    Steps s top' inner' all' i j k name (.map (Node.insertKey (.str originKey) name own')) ∧
    top'.map Prod.fst = top.map Prod.fst ∧ inner'.map Prod.fst = inner.map Prod.fst ∧
    all'.map Prod.fst = all.map Prod.fst ∧ own'.map Prod.fst = own.map Prod.fst ∧
    Node.wellFormedEntries own' = true

section Stamped

variable {raw : Node} {top inner all : Entries} {i j k : Nat} {name : Node} {own : Entries}
  (formed : raw.wellFormed = true) (steps : Steps raw top inner all i j k name (.map own))
include formed steps

theorem stepsTable : Grouping.schemas [] raw = .ok (.map all) ∧ schemasWay raw = [i, j] := by
  obtain ⟨rfl, atComponents, atSchemas, there⟩ := steps
  have formedInner := (Node.memberFormed formed atComponents).2
  have first := indexUnique (Node.mapFormed formed) atComponents
  have second := indexUnique (Node.mapFormed formedInner) atSchemas
  have some {es : Entries} {i : Nat} {e : Node × Node} (there : es[i]? = some e) :
      Parts.holds [] (.map es) = true := by
    cases es with
    | nil => cases there
    | cons => rfl
  constructor
  · simp [Grouping.schemas, Parts.field, Parts.view, atIndex, first, second, atComponents,
      atSchemas, Parts.orElse, some atSchemas, some there, bind, Except.bind, pure, Except.pure]
  · simp [schemasWay, keyPlace, childAt?, first, second, atComponents]

-- The component schemas weigh less than what they stand in, so none of them is the same object.
theorem namesAbove {sharing : Sharing} (consistent : Consistent sharing raw) {q : List Nat}
    (above : q = [] ∨ q = [i] ∨ q = [i, j]) :
    lastKey (fun l => sharing.same q ([i, j] ++ [l])) 0 all = none := by
  obtain ⟨rfl, atComponents, atSchemas, _⟩ := steps
  refine lastKeyNone fun l bound => Bool.eq_false_iff.mpr fun same => ?_
  have value := consistent _ _ same
  have atEntry : valueAlong (.map top) ([i, j] ++ [0 + l]) = all[l].2 := by
    simp [valueAlong, childAt?, atComponents, atSchemas, bound]
  have first : (Node.map inner).weight < (Node.map top).weight :=
    childWeight (show childAt? (.map top) i = some (.map inner) by simp [childAt?, atComponents])
  have second : (Node.map all).weight < (Node.map inner).weight :=
    childWeight (show childAt? (.map inner) j = some (.map all) by simp [childAt?, atSchemas])
  have third : all[l].2.weight < (Node.map all).weight :=
    childWeight (show childAt? (.map all) l = some all[l].2 by simp [childAt?, bound])
  have here : valueAlong (.map top) q = .map top ∨ valueAlong (.map top) q = .map inner ∨
      valueAlong (.map top) q = .map all := by
    rcases above with rfl | rfl | rfl
    · exact .inl rfl
    · simp [valueAlong, childAt?, atComponents]
    · simp [valueAlong, childAt?, atComponents, atSchemas]
  rw [atEntry] at value
  rcases here with shows | shows | shows <;> rw [shows] at value <;> rw [← value] at third <;> omega

theorem namesHere {sharing : Sharing} (consistent : Consistent sharing raw)
    (plain : Entries.has "$ref" own = false) (latest : Latest sharing raw [i, j, k]) :
    lastKey (fun l => sharing.same [i, j, k] ([i, j] ++ [l])) 0 all = some name := by
  obtain ⟨rfl, atComponents, atSchemas, there⟩ := id steps
  refine lastKeyLatest there (by simp [Sharing.same]) fun l bound past =>
    Bool.eq_false_iff.mpr fun same => ?_
  have value := consistent _ _ same
  have entry : all[l] = (all[l].1, .map own) := by
    refine Prod.ext rfl ?_
    simpa [valueAlong, childAt?, atComponents, atSchemas, there, bound] using value.symm
  have other := latest i j k l rfl past ⟨all[l].1, own,
    ⟨_, _, _, _, _, _, ⟨rfl, atComponents, atSchemas, by simp [bound, ← entry]⟩, rfl⟩, plain⟩
  simp only [List.cons_append, List.nil_append, Nat.zero_add] at same
  rw [other] at same
  contradiction

theorem stepsTitled {names : List Nat → Option Node} (usable : Usable names)
    (plain : Entries.has "$ref" own = false) (root : names [] = none) (first : names [i] = none)
    (second : names [i, j] = none) (third : names [i, j, k] = some name) :
    Restamped (stampAt names [] raw) top inner all i j k name own := by
  obtain ⟨rfl, atComponents, atSchemas, there⟩ := steps
  have formedSchemas := (Node.memberFormed (Node.memberFormed formed atComponents).2 atSchemas).2
  have formedOwn := Node.mapFormed (Node.memberFormed formedSchemas there).2
  have keys (way : List Nat) (es : Entries) := stampEntriesKeys names way 0 es
  have plain' : Entries.has "$ref" (stampEntries names [i, j, k] 0 own) = false :=
    (hasKeys (keys _ _) _).trans plain
  refine ⟨stampEntries names [] 0 top, stampEntries names [i] 0 inner,
    stampEntries names [i, j] 0 all, stampEntries names [i, j, k] 0 own, ⟨?_, ?_, ?_, ?_⟩,
    keys _ _, keys _ _, keys _ _, keys _ _,
    Document.entriesChanged formedOwn (keys _ _) (stampEntriesFormed usable _ _ formedOwn)⟩
  · rw [stampAt, root]
  · simp [stampEntriesAt, atComponents, stampAt, first]
  · simp [stampEntriesAt, atSchemas, stampAt, second]
  · simp [stampEntriesAt, there, stampAt, third, stampedWith, plain']

theorem stepsStamped {sharing : Sharing} (consistent : Consistent sharing raw)
    (plain : Entries.has "$ref" own = false) (latest : Latest sharing raw [i, j, k]) {s : Node}
    (done : stamped raw sharing = .ok s) :
    Restamped s top inner all i j k name own := by
  obtain ⟨read, way⟩ := stepsTable formed steps
  obtain ⟨schemas, found, done⟩ := Fault.bindOk done
  cases read.symm.trans found
  obtain ⟨entries, held, done⟩ := Fault.bindOk done
  have usable := namesUsable formed found held sharing
  cases held
  cases done
  rw [way] at usable ⊢
  have above {q : List Nat} := namesAbove formed steps consistent (q := q)
  exact stepsTitled formed steps usable plain (above (.inl rfl)) (above (.inr (.inl rfl)))
    (above (.inr (.inr rfl))) (namesHere formed steps consistent plain latest)

end Stamped

def Copies (library : Library) (p : Place) (n : Node) : Prop :=
  settled [] (normal n) = .ok (library.valueAt p)

theorem copiesRoot {n : Node} {library : Library} (opened : libraryOf n = .ok library) :
    Copies library .origin n := by
  obtain ⟨n', inner, first⟩ := libraryOpens opened
  have content : library.valueAt .origin = n' := by
    simp [Library.valueAt, Place.origin, valueAlong, Library.contentAt, first]
  rw [Copies, inner, content]

section Copies

variable {library : Library} {p : Place} {es : Entries} (copies : Copies library p (.map es))
include copies

theorem copiesEach : ∃ es', library.valueAt p = .map es' ∧ es'.map Prod.fst = es.map Prod.fst ∧
    ∀ i e, es[i]? = some e → e.1 ≠ .str "$ref" ∨
      (∀ inner, settled [] (normal e.2) = .ok inner → inner.reference? = none) →
      Copies library (p.child i) e.2 := by
  have done : settled [] (.map (normalEntries es)) = .ok (library.valueAt p) := copies
  obtain ⟨es', here, each⟩ := settledMap done
  refine ⟨es', here, ?_, fun i e there plain => ?_⟩
  · rw [settledMapKeys each, normalKeys]
  · have own : (normalEntries es)[i]? = some (e.1, normal e.2) := by
      rw [normalEach, List.getElem?_map, there, Option.map_some]
    rcases atIndexBoth each i with ⟨past, _⟩ | ⟨e', e'', own', there', entry⟩
    · simp [own] at past
    · cases own.symm.trans own'
      have value := entry.value.resolve_right fun ⟨key, _, inner, settles, reference⟩ =>
        plain.elim (absurd key) fun plain => reference (plain inner settles)
      rw [Copies, value, library.valueAtChild, here, childAt?, there']
      rfl

theorem copiesInside {i : Nat} {k v : Node} (there : es[i]? = some (k, v))
    (other : k ≠ .str "$ref") : Copies library (p.child i) v := by
  obtain ⟨_, _, _, inside⟩ := copiesEach copies
  exact inside i (k, v) there (.inl other)

theorem copiesMap {i : Nat} {k : Node} {own : Entries} (there : es[i]? = some (k, .map own))
    (plain : Entries.has "$ref" own = false) : Copies library (p.child i) (.map own) := by
  obtain ⟨_, _, _, inside⟩ := copiesEach copies
  refine inside i (k, .map own) there (.inr fun inner settles => ?_)
  obtain ⟨own', rfl, each⟩ := settledMap settles
  refine plainReference ((hasKeys ?_ _).trans plain)
  rw [settledMapKeys each, normalKeys]

theorem copiesPlain (plain : Entries.has "$ref" es = false) :
    (library.valueAt p).reference? = none := by
  obtain ⟨es', here, keys, _⟩ := copiesEach copies
  rw [here]
  exact plainReference ((hasKeys keys _).trans plain)

theorem copiesUnder (ok : Node.wellFormedEntries es = true) {i : Nat} {key : String} {v : Node}
    (there : es[i]? = some (.str key, v)) {t : Target} (denotes : library.Denotes (p.child i) t) :
    Under library p key t := by
  obtain ⟨es', here, keys, _⟩ := copiesEach copies
  exact ⟨es', i, here, (indexOfKeys keys key).trans (indexUnique ok there), denotes⟩

end Copies

theorem copiedUsable {base : List Char} {name m : Node} (usable : name.hashable = true)
    (done : settled base (normal name) = .ok m) : m.reference? = none := by
  cases m with
  | map es =>
    obtain ⟨es', here, _⟩ := (keptSettled done [] es rfl).resolve_left id
    exact absurd here (usableMapless usable [] es')
  | _ => rfl

theorem insertKeyThere (key : String) (v : Node) (es : Entries) :
    ∃ i : Nat, (Node.insertKey (.str key) v es)[i]? = some (Node.str key, v) := by
  induction es with
  | nil => exact ⟨0, rfl⟩
  | cons first rest ih =>
    obtain ⟨k, u⟩ := first
    simp only [Node.insertKey]
    split
    · rename_i met
      cases Node.sameTextIff.mp met
      exact ⟨0, rfl⟩
    · obtain ⟨i, there⟩ := ih
      exact ⟨i + 1, there⟩

theorem componentUsable {raw : Node} (formed : raw.wellFormed = true) {way : List Nat}
    {name : Node} {own : Entries} (component : Component raw way name own) :
    name.hashable = true := by
  obtain ⟨⟨top, inner, all, i, j, k, ⟨rfl, atComponents, atSchemas, there⟩, _⟩, _⟩ := component
  have schemas := (Node.memberFormed (Node.memberFormed formed atComponents).2 atSchemas).2
  exact (Node.memberFormed schemas there).1

structure Entered (raw : Node) (sharing : Sharing) (s : Node) (library : Library) (way : List Nat)
    (name : Node) (own : Entries) : Prop where
  formed : raw.wellFormed = true
  consistent : Consistent sharing raw
  stamps : stamped raw sharing = .ok s
  opened : libraryOf s = .ok library
  component : Component raw way name own
  latest : Latest sharing raw way

theorem enteredAlone {raw s : Node} {library : Library} {way : List Nat} {name : Node}
    {own : Entries} (formed : raw.wellFormed = true) (stamps : stamped raw = .ok s)
    (opened : libraryOf s = .ok library) (component : Component raw way name own) :
    Entered raw [] s library way name own :=
  ⟨formed, consistentAlone raw, stamps, opened, component, latestAlone raw way⟩

section Entered

variable {raw s : Node} {sharing : Sharing} {library : Library} {way : List Nat} {name : Node}
  {own : Entries} (entered : Entered raw sharing s library way name own)
include entered

theorem Entered.steps : ∃ top inner all i j k, way = [i, j, k] ∧
    Steps raw top inner all i j k name (.map own) ∧
    Restamped s top inner all i j k name own := by
  obtain ⟨formed, consistent, stamps, _, ⟨⟨top, inner, all, i, j, k, steps, rfl⟩, plain⟩, latest⟩ :=
    entered
  exact ⟨top, inner, all, i, j, k, rfl, steps,
    stepsStamped formed steps consistent plain latest stamps⟩

theorem Entered.named : ∃ q, Under library ⟨0, way⟩ originKey (.place q) ∧
    Copies library q name := by
  obtain ⟨_, _, _, i, j, k, rfl, _, top', inner', all', own', stands, _, _, _, keys, formedOwn⟩ :=
    entered.steps
  obtain ⟨rfl, atComponents, atSchemas, there⟩ := stands
  have inner := copiesInside (copiesRoot entered.opened) atComponents (by simp)
  have all := copiesInside inner atSchemas (by simp)
  have stamp : originKey ≠ "$ref" := by simp [originKey]
  have copies := copiesMap all there
    ((insertKeyHas stamp name own').trans ((hasKeys keys _).trans entered.component.2))
  have usable := componentUsable entered.formed entered.component
  obtain ⟨l, there⟩ := insertKeyThere originKey name own'
  have copy := copiesInside copies there (by simp [originKey])
  exact ⟨_, copiesUnder copies (Node.insertKeyFormed formedOwn rfl (Node.wellFormedOfUsable usable))
    there (library.plainDenotes (copiedUsable usable copy)), copy⟩

end Entered

def Plain (raw : Node) : Prop :=
  ∃ top inner all, raw = .map top ∧ Entries.at? "components" top = some (.map inner) ∧
    Entries.at? "schemas" inner = some (.map all) ∧ Entries.has "$ref" inner = false ∧
    Entries.has "$ref" all = false

theorem atUnique {es : Entries} (ok : Node.wellFormedEntries es = true) {i : Nat} {key : String}
    {v : Node} (there : es[i]? = some (.str key, v)) : Entries.at? key es = some v := by
  rw [atIndex, indexUnique ok there, Option.bind_some, there, Option.map_some]

theorem plainSteps {raw : Node} {top inner all : Entries} {i j k : Nat} {name v : Node}
    (formed : raw.wellFormed = true) (plain : Plain raw)
    (steps : Steps raw top inner all i j k name v) :
    Entries.has "$ref" inner = false ∧ Entries.has "$ref" all = false := by
  obtain ⟨rfl, atComponents, atSchemas, _⟩ := steps
  obtain ⟨top', inner', all', whole, components, schemas, plain⟩ := plain
  cases whole
  have innerFormed := (Node.memberFormed formed atComponents).2
  rw [atUnique (Node.mapFormed formed) atComponents] at components
  cases components
  rw [atUnique (Node.mapFormed innerFormed) atSchemas] at schemas
  cases schemas
  exact plain

def Rooted (raw : Node) : Prop := ∃ top, raw = .map top ∧ Entries.has "$ref" top = false

section Entered

variable {raw s : Node} {sharing : Sharing} {library : Library} {way : List Nat} {own : Entries}

theorem Entered.rooted {name : Node} (entered : Entered raw sharing s library way name own)
    (rooted : Rooted raw) : (library.valueAt .origin).reference? = none := by
  obtain ⟨top, _, _, _, _, _, _, steps, _, _, _, _, ⟨rfl, _, _, _⟩, keys, _⟩ := entered.steps
  obtain ⟨top', whole, noReference⟩ := rooted
  cases steps.root.symm.trans whole
  exact copiesPlain (copiesRoot entered.opened) ((hasKeys keys _).trans noReference)

theorem Entered.stands {n : String} (entered : Entered raw sharing s library way (.str n) own)
    (plain : Plain raw) (rooted : (library.valueAt .origin).reference? = none) {w : Walk}
    {d : Document} (inlined : Inlined library w d) :
    ∃ schemas v, Grouping.schemas d.parts d.root = .ok schemas ∧
      d.parts.lookup schemas (.str n) = .ok v ∧ Stands library w d.parts v (.place ⟨0, way⟩) := by
  obtain ⟨_, _, _, i, j, k, rfl, steps, top', inner', all', own', steps', _, keysInner, keysAll,
    keysOwn, _⟩ := entered.steps
  obtain ⟨plainInner, plainAll⟩ := plainSteps entered.formed plain steps
  have formedTop := stampedFormed entered.formed entered.stamps
  obtain ⟨rfl, atComponents, atSchemas, there⟩ := steps'
  have formedInner := (Node.memberFormed formedTop atComponents).2
  have formedAll := (Node.memberFormed formedInner atSchemas).2
  have top := copiesRoot entered.opened
  have inner := copiesInside top atComponents (by simp)
  have all := copiesInside inner atSchemas (by simp)
  have stamp : originKey ≠ "$ref" := by simp [originKey]
  have noReference' := (insertKeyHas stamp (.str n) own').trans
    ((hasKeys keysOwn _).trans entered.component.2)
  have entry := copiesMap all there noReference'
  have underTop := copiesUnder top (Node.mapFormed formedTop) atComponents
    (library.plainDenotes (copiesPlain inner ((hasKeys keysInner _).trans plainInner)))
  have underInner := copiesUnder inner (Node.mapFormed formedInner) atSchemas
    (library.plainDenotes (copiesPlain all ((hasKeys keysAll _).trans plainAll)))
  have underAll := copiesUnder all (Node.mapFormed formedAll) there
    (library.plainDenotes (copiesPlain entry noReference'))
  obtain ⟨t, origin, root⟩ := inlined.rootStands
  cases origin.symm.trans (library.plainDenotes rooted)
  obtain ⟨u, components, stands⟩ := inlined.fieldStands root underTop
  obtain ⟨schemas, field, stands'⟩ := inlined.fieldStands stands underInner
  obtain ⟨v, found, last⟩ := inlined.lookupStands stands' underAll
  refine ⟨schemas, v, ?_, found, last⟩
  have holds := inlined.holdsStand stands underInner
  have holds' := inlined.holdsStand stands' underAll
  simp [Grouping.schemas, components, Parts.orElse, holds, field, holds', bind, Except.bind, pure,
    Except.pure]

end Entered

theorem nameShown {library : Library} {w : Walk} {d : Document} (inlined : Inlined library w d)
    {q : Place} {name v : Node} (usable : name.hashable = true) (copies : Copies library q name)
    (stands : Stands library w d.parts v (.place q)) {n : String} :
    d.parts.view v = .str n ↔ name = .str n := by
  have copies : settled [] (normal name) = .ok (library.valueAt q) := copies
  cases name with
  | pair a b =>
    obtain ⟨items, _, done⟩ := Fault.bindOk copies
    obtain ⟨_, shows, _⟩ := inlined.listShown stands (Except.ok.inj done).symm
    simp [shows]
  | bytes content =>
    obtain ⟨items, _, done⟩ := Fault.bindOk copies
    obtain ⟨_, shows, _⟩ := inlined.listShown stands (Except.ok.inj done).symm
    simp [shows]
  | list | map | set | link | enclosing => cases usable
  | _ =>
    have here := (Except.ok.inj copies).symm
    rw [stands.leafShown (by rw [here]; rfl), here]
    rfl

end Generate
end ClientGen
