import ClientGen.Proofs.Generate.Stamping
import ClientGen.Proofs.Grouping.Attribution

/-! Where stamps come from. A map of the inlined document that carries a name is the component of
that name, unless the document itself writes the key of stamps where the map stands. Then the map
is taken for the component that it names, whatever it holds. -/
namespace ClientGen

namespace Reference.Library

theorem gatherOpened (fuel : Nat) (cited : List (List Char × String)) {library : Library}
    (before : ∀ v ∈ library.tail, ∃ c : Citation, c.opened = .ok v) (some : library ≠ []) :
    ∀ v ∈ (gather fuel cited library).tail, ∃ c : Citation, c.opened = .ok v := by
  induction fuel generalizing cited library with
  | zero => exact before
  | succ fuel ih =>
    cases cited with
    | nil => exact before
    | cons first rest =>
      rw [gather]
      split
      · exact ih _ before some
      · rename_i c _
        split
        · rename_i v _ opened
          refine ih _ (fun u member => ?_) (by simp)
          rw [List.tail_append_of_ne_nil some] at member
          rcases List.mem_append.mp member with old | new
          · exact before u old
          · cases List.mem_singleton.mp new
            exact ⟨c, opened⟩
        · exact ih _ before some

end Reference.Library

namespace Generate
open Reference Document

theorem volumeOpened {n : Node} {library : Library} (opened : libraryOf n = .ok library) {i : Nat}
    {v : Volume} (there : library[i + 1]? = some v) : ∃ c : Citation, c.opened = .ok v := by
  obtain ⟨n', _, opened⟩ := Fault.bindOk opened
  cases opened
  rw [← List.getElem?_tail] at there
  exact Library.gatherOpened _ _ (by simp) (List.cons_ne_nil _ _) v (List.mem_of_getElem? there)

inductive Writes (raw : Node) (keys : List Node) : Prop
  | own {way es} (here : valueAlong (normal raw) way = .map es)
      (apart : ¬ ∃ name schema, Component raw way name schema) (same : keys = es.map Prod.fst)
  | cited {c v way es} (opened : Citation.opened c = .ok v)
      (here : valueAlong v.content way = .map es) (same : keys = es.map Prod.fst)

section Keys

variable {raw s : Node} {library : Library} (formed : raw.wellFormed = true)
  (done : stamped raw = .ok s) (opened : libraryOf s = .ok library)
include formed done opened

theorem keysWritten {p : Place} {es : Entries} (here : library.valueAt p = .map es) :
    (p.volume = 0 ∧ ∃ name own, Component raw p.way name own) ∨ Writes raw (es.map Prod.fst) := by
  obtain ⟨volume, way⟩ := p
  unfold Library.valueAt Library.contentAt at here
  cases volume with
  | zero =>
    obtain ⟨content, settles, first⟩ := libraryOpens opened
    rw [first] at here
    have kept := (stampedKept formed done).trans (keptSettled settles)
    by_cases apart : ∃ name schema, Component raw way name schema
    · exact .inl ⟨rfl, apart⟩
    · obtain ⟨written, along, keys⟩ := (kept way es here).resolve_left apart
      exact .inr (.own along apart keys)
  | succ i =>
    refine .inr ?_
    cases there : library[i + 1]? with
    | none =>
      rw [there] at here
      exact absurd here (alongLeaf rfl way es)
    | some v =>
      rw [there] at here
      obtain ⟨c, opens⟩ := volumeOpened opened there
      exact .cited opens here rfl

end Keys

theorem inlinedFrom {raw : Node} {sharing : Sharing} {parsed : Parsed}
    (inlines : (inlined raw sharing).result = .ok parsed) :
    ∃ s library w, stamped raw sharing = .ok s ∧ libraryOf s = .ok library ∧
      Inlined library w parsed.document ∧ Grouping.schemas [] raw = .ok parsed.schemas := by
  obtain ⟨s, stamps, inlines, _⟩ := Trail.bindEnds inlines
  obtain ⟨document, dereferenced, inlines, _⟩ := Trail.bindEnds inlines
  obtain ⟨_, _, inlines, _⟩ := Trail.bindEnds inlines
  obtain ⟨_, _, inlines, _⟩ := Trail.bindEnds inlines
  obtain ⟨schemas, registered, inlines, _⟩ := Trail.bindEnds inlines
  obtain ⟨_, _, inlines, _⟩ := Trail.bindEnds inlines
  obtain ⟨_, _, inlines, _⟩ := Trail.bindEnds inlines
  cases inlines
  obtain ⟨library, w, opened, all⟩ := dereferenceInlined dereferenced
  exact ⟨s, library, w, stamps, opened, all, registered⟩

theorem originField {parts : Parts} {m o : Node} {n : String} (origin : parts.origin m = .ok o)
    (text : parts.view o = .str n) : ∃ es, parts.view m = .map es ∧
      parts.field m originKey = .ok o ∧ Node.str originKey ∈ es.map Prod.fst := by
  unfold Parts.origin at origin
  split at origin
  · cases shows : parts.view m with
    | map es =>
      refine ⟨es, rfl, origin, ?_⟩
      simp only [Parts.field, shows, Except.ok.injEq] at origin
      rw [atIndex] at origin
      cases found : indexOfKey? originKey es with
      | none =>
        rw [found] at origin
        cases origin
        cases text
      | some i =>
        obtain ⟨v, there⟩ := indexBound found
        exact List.mem_map.mpr ⟨_, List.mem_of_getElem? there, rfl⟩
    | _ => simp [Parts.field, shows] at origin
  · cases origin
    cases text

-- A map that carries a name is the component of that name, or the document itself wrote the key.
theorem originsTold {raw : Node} (formed : raw.wellFormed = true) {parsed : Parsed}
    (inlines : (inlined raw).result = .ok parsed) {m : Node} (within : Within parsed.document m)
    {o : Node} (origin : parsed.document.parts.origin m = .ok o) {n : String}
    (text : parsed.document.parts.view o = .str n) :
    (∃ way own, Component raw way (.str n) own ∧ (Plain raw → Rooted raw → ∃ schemas v,
      Grouping.schemas parsed.document.parts parsed.document.root = .ok schemas ∧
      parsed.document.parts.lookup schemas (.str n) = .ok v ∧
      parsed.document.parts.view v = parsed.document.parts.view m)) ∨
    ∃ keys, Writes raw keys ∧ .str originKey ∈ keys ∧
      keys = (Grouping.members parsed.document.parts m).map Prod.fst := by
  obtain ⟨s, library, w, stamps, opened, built, _⟩ := inlinedFrom inlines
  obtain ⟨es, shows, field, carries⟩ := originField origin text
  obtain ⟨t, stands⟩ := built.withinStands within
  obtain ⟨⟨volume, way⟩, es', stands, here⟩ := built.mapStands stands shows
  obtain ⟨es'', shows', keys, _⟩ := built.entriesStand stands here
  rcases keysWritten formed stamps opened here with ⟨first, name, own, component⟩ | written
  · cases first
    have entered := enteredAlone formed stamps opened component
    obtain ⟨q, under, copy⟩ := entered.named
    obtain ⟨u, field', carried⟩ := built.fieldStands stands under
    cases field.symm.trans field'
    cases (nameShown built (componentUsable formed component) copy carried).mp text
    refine .inl ⟨way, own, component, fun plain rooted => ?_⟩
    obtain ⟨schemas, v, declared, found, entry⟩ :=
      entered.stands plain (entered.rooted rooted) built
    exact ⟨schemas, v, declared, found, entry.shows.trans stands.shows.symm⟩
  · cases shows.symm.trans shows'
    exact .inr ⟨_, keys ▸ written, carries, by rw [Grouping.members, shows]⟩

def catalog (own returned : Node) : Node := Node.object [
  ("paths", Node.object [("/a", Node.object [("get", Grouping.answer returned)])]),
  ("components", Node.object [("schemas", Node.object [("Widget", own)])])]

def widget (stamps : List (String × Node)) : Node := Node.object ([("type", .str "object"),
  ("properties", Node.object [("id", Node.object [("type", .str "string")])])] ++ stamps)

def stamp : List (String × Node) := [(originKey, .str "Widget")]

def toWidget : Node := Node.object [("$ref", .str "#/components/schemas/Widget")]

def forged : Node := Node.object [("type", .str "object"), (originKey, .str "Widget")]

theorem returnedWithin {own returned : Node} {parts : Parts} :
    Within ⟨catalog own returned, parts⟩ returned :=
  ((((((((Within.root.lookup "paths" rfl rfl).lookup "/a" rfl rfl).lookup "get" rfl rfl).lookup
    "responses" rfl rfl).lookup "default" rfl rfl).lookup "content" rfl rfl).lookup
    "application/json" rfl rfl).lookup "schema" rfl rfl)

theorem widgetTold :
    let parts : Parts := [widget stamp]
    let d : Document := ⟨catalog (.link 0) (.link 0), parts⟩
    (inlined (catalog (widget []) toWidget)).result =
      .ok ⟨catalog (widget []) toWidget, d, Node.object [("Widget", widget [])]⟩ ∧
    Within d (.link 0) ∧ parts.origin (.link 0) = .ok (.str "Widget") ∧
    ((∃ way own, Component (catalog (widget []) toWidget) way (.str "Widget") own ∧
      (Plain (catalog (widget []) toWidget) → Rooted (catalog (widget []) toWidget) → ∃ schemas v,
        Grouping.schemas parts d.root = .ok schemas ∧
        parts.lookup schemas (.str "Widget") = .ok v ∧ parts.view v = parts.view (.link 0))) ∨
    ∃ keys, Writes (catalog (widget []) toWidget) keys ∧ .str originKey ∈ keys ∧
      keys = (Grouping.members parts (.link 0)).map Prod.fst) := by
  intro parts d
  have inlines : (inlined (catalog (widget []) toWidget)).result =
      .ok ⟨catalog (widget []) toWidget, d, Node.object [("Widget", widget [])]⟩ := by rfl
  have within : Within d (.link 0) := returnedWithin
  exact ⟨inlines, within, rfl, originsTold (by decide +kernel) inlines within rfl rfl⟩

-- What stands in the document itself is taken for the component, and the operation that returns
-- it for one of the component.
theorem forgedTaken :
    let d : Document := ⟨catalog (widget stamp) forged, []⟩
    (inlined (catalog (widget []) forged)).result =
      .ok ⟨catalog (widget []) forged, d, Node.object [("Widget", widget [])]⟩ ∧
    Within d forged ∧ d.parts.origin forged = .ok (.str "Widget") ∧
    (∃ schemas v, Grouping.schemas d.parts d.root = .ok schemas ∧
      d.parts.lookup schemas (.str "Widget") = .ok v ∧ d.parts.same v forged = false) ∧
    ∃ rs, (Grouping.build d (some (Node.object [("Widget", widget [])]))).result = .ok rs ∧
      rs.map (·.name) = [.str "Widget"] ∧
      rs.map (·.operations.map (·.path)) = [["/a"]] := by
  refine ⟨by rfl, returnedWithin, by rfl, ⟨_, _, by rfl, by rfl, by decide +kernel⟩, ?_⟩
  exact ⟨_, rfl, rfl, rfl⟩

end Generate
end ClientGen
