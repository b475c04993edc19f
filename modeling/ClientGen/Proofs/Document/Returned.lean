import ClientGen.Grouping
import ClientGen.Proofs.Compile.Calls
import ClientGen.Proofs.Document.Fields
import ClientGen.Proofs.Document.Formed

/-! What an operation of an inlined document returns: the schema of its default response, or what a
list envelope in its place lists. Both are told by the library that the document was inlined from,
in which they may stand anywhere, behind any number of references. -/
namespace ClientGen
namespace Document
open Reference Parts

def Spelled (library : Library) (t : Target) (s : String) : Prop :=
  match t with
  | .place p => library.valueAt p = .str s
  | .character c => s = String.singleton c

def Chosen (library : Library) (content media : Place) : Prop :=
  ∃ es i, library.valueAt content = .map es ∧ library.Denotes (content.child i) (.place media) ∧
    (indexOfKey? preferredMediaType es = some i ∨ indexOfKey? preferredMediaType es = none ∧
      i = 0 ∧ ∃ key v, es[0]? = some (key, v) ∧ key ≠ .null)

def Returns (library : Library) (operation schema : Place) : Prop :=
  ∃ responses response content media, Under library operation "responses" (.place responses) ∧
    Under library responses "default" (.place response) ∧
    Under library response "content" (.place content) ∧ Chosen library content media ∧
    Under library media "schema" (.place schema)

def MarksList (library : Library) (properties : Place) : Prop :=
  ∃ object enumeration item items first, Under library properties "object" (.place object) ∧
    Under library object "enum" (.place enumeration) ∧
    library.valueAt enumeration = .list (item :: items) ∧
    library.Denotes (enumeration.child 0) first ∧ Spelled library first "list"

def Envelope (library : Library) (schema item : Place) : Prop :=
  ∃ properties data kind, Under library schema "properties" (.place properties) ∧
    MarksList library properties ∧ Under library properties "data" (.place data) ∧
    Under library data "type" kind ∧ Spelled library kind "array" ∧
    Under library data "items" (.place item)

def Marked (parts : Parts) (schema : Node) : Prop :=
  ∃ properties object enumeration, parts.field schema "properties" = .ok properties ∧
    parts.field properties "object" = .ok object ∧
    parts.field object "enum" = .ok enumeration ∧
    Resource.marksList parts enumeration = .ok true

theorem fieldSame {parts : Parts} {a b : Node} (same : parts.view a = parts.view b)
    (key : String) : parts.field a key = parts.field b key := by
  simp only [Parts.field, same]

theorem markedSame {parts : Parts} {a b : Node} (same : parts.view a = parts.view b)
    (marked : Marked parts a) : Marked parts b := by
  obtain ⟨properties, object, enumeration, here, marked⟩ := marked
  exact ⟨properties, object, enumeration, (fieldSame same _).symm.trans here, marked⟩

theorem unmarkedItem {parts : Parts} {schema : Node} (unmarked : ¬ Marked parts schema)
    {found : Option Node} (done : Resource.listItemSchema parts schema = .ok found) :
    found = some schema := by
  unfold Resource.listItemSchema at done
  obtain ⟨properties, here, done⟩ := Fault.bindOk done
  obtain ⟨object, there, done⟩ := Fault.bindOk done
  split at done
  · cases done
    rfl
  · rename_i holds
    have own : parts.orElse properties (.map []) = properties := by
      unfold Parts.orElse at there ⊢
      split at there
      · rename_i some
        rw [if_pos some]
      · cases there
        exact absurd rfl holds
    rw [own] at there
    obtain ⟨object', refused, done⟩ := Fault.bindOk done
    cases Parts.refuseReferenceSame refused
    obtain ⟨enumeration, kinds, done⟩ := Fault.bindOk done
    obtain ⟨marks, told, done⟩ := Fault.bindOk done
    cases marks with
    | false =>
      cases done
      rfl
    | true => exact absurd ⟨properties, object, enumeration, here, there, kinds, told⟩ unmarked

theorem refusedKnown {β : Type} {parts : Parts} {n : Node} {f : Node → Except Fault β} {b : β}
    (done : (parts.refuseReference n >>= f) = .ok b) : f n = .ok b := by
  obtain ⟨m, refused, done⟩ := Fault.bindOk done
  cases Parts.refuseReferenceSame refused
  exact done

section Reading

variable {library : Library} {w : Walk} {d : Document} (inlined : Inlined library w d) {v : Node}
include inlined

omit inlined in
theorem Stands.spelled {parts : Parts} {t : Target} (stands : Stands library w parts v t)
    {s : String} (spelled : Spelled library t s) : parts.view v = .str s := by
  cases t with
  | place p =>
    have here : library.valueAt p = .str s := spelled
    rw [stands.leafShown (by rw [here]; rfl), here]
    rfl
  | character c =>
    cases spelled
    exact stands.shows

theorem Inlined.marksList {p : Place} (stands : Stands library w d.parts v (.place p))
    {item : Node} {items : List Node} (here : library.valueAt p = .list (item :: items))
    {first : Target} (denotes : library.Denotes (p.child 0) first)
    (spelled : Spelled library first "list") : Resource.marksList d.parts v = .ok true := by
  obtain ⟨value, shows, inner⟩ := inlined.listShown stands here
  obtain ⟨t, denotes', stands'⟩ := inner 0 (by simp)
  cases denotes.symm.trans denotes'
  have text := stands'.spelled spelled
  have first : d.parts.lookup v (.int 0) = .ok (value 0) := by
    have zero : d.parts.view (.int 0) = .int 0 := rfl
    simp [Parts.lookup, shows, zero, position?, index?]
  have holds : d.parts.holds v = true := by simp [Parts.holds, shows, Node.holds]
  simp [Resource.marksList, holds, first, Parts.isText, text, bind, Except.bind, pure, Except.pure]

theorem Inlined.envelopeItem {p item : Place} (stands : Stands library w d.parts v (.place p))
    (envelope : Envelope library p item) {key : String} {t : Target}
    (some : Under library item key t) {found : Option Node}
    (done : Resource.listItemSchema d.parts v = .ok found) :
    ∃ u, found = .some u ∧ Stands library w d.parts u (.place item) := by
  obtain ⟨properties, data, kind, underProperties, marks, underData, underKind, array,
    underItems⟩ := envelope
  obtain ⟨object, enumeration, first, rest, allowed, underObject, underEnum, values, denotes,
    list⟩ := marks
  obtain ⟨u₁, field₁, stands₁⟩ := inlined.fieldStands stands underProperties
  obtain ⟨u₂, field₂, stands₂⟩ := inlined.fieldStands stands₁ underObject
  obtain ⟨u₃, field₃, stands₃⟩ := inlined.fieldStands stands₂ underEnum
  obtain ⟨u₄, field₄, stands₄⟩ := inlined.fieldStands stands₁ underData
  obtain ⟨u₅, field₅, stands₅⟩ := inlined.fieldStands stands₄ underKind
  obtain ⟨u₆, field₆, stands₆⟩ := inlined.fieldStands stands₄ underItems
  have own₁ : d.parts.orElse u₁ (.map []) = u₁ := if_pos (inlined.holdsStand stands₁ underObject)
  have own₆ : d.parts.orElse u₆ (.map []) = u₆ := if_pos (inlined.holdsStand stands₆ some)
  have holds₂ := inlined.holdsStand stands₂ underEnum
  have holds₄ := inlined.holdsStand stands₄ underKind
  unfold Resource.listItemSchema at done
  have done := Fault.bindKnown done field₁
  rw [own₁] at done
  have done := Fault.bindKnown done field₂
  rw [if_neg (by rw [holds₂]; decide)] at done
  have done := Fault.bindKnown (refusedKnown done) field₃
  have done := Fault.bindKnown done (inlined.marksList stands₃ values denotes list)
  rw [if_neg (by decide)] at done
  have done := Fault.bindKnown done field₄
  rw [if_neg (by rw [holds₄]; decide)] at done
  have done := Fault.bindKnown (refusedKnown done) field₅
  rw [if_neg (by rw [Parts.isText, stands₅.spelled array]; decide)] at done
  have done := Fault.bindKnown done field₆
  rw [own₆] at done
  cases refusedKnown done
  exact ⟨u₆, rfl, stands₆⟩

omit inlined in
theorem lookupFirst {parts : Parts} {key u : Node} {rest : Entries} (usable : key.hashable = true)
    (shows : parts.view v = .map ((key, u) :: rest)) : parts.lookup v (parts.view key) = .ok u := by
  rw [viewUsable _ usable]
  simp [Parts.lookup, shows, viewUsable _ usable, usable, Node.findKey?, Node.sameSelfKey usable]

theorem Inlined.chosenStands {p media : Place} (stands : Stands library w d.parts v (.place p))
    (formed : library.WellFormed) (chosen : Chosen library p media) :
    ∃ key u, Content.defaultKey d.parts v = .ok key ∧ d.parts.view key ≠ .null ∧
      d.parts.lookup v (d.parts.view key) = .ok u ∧ Stands library w d.parts u (.place media) := by
  obtain ⟨es, i, here, denotes, choice⟩ := chosen
  obtain ⟨value, shows, inner⟩ := inlined.mapShown stands here
  have listed : d.parts.contains v (.str preferredMediaType) =
      .ok (indexOfKey? preferredMediaType es).isSome := by
    simp only [Parts.contains, shows, Node.anyText, hasIndex, indexOfKeys (filledKeys value es)]
  unfold Content.defaultKey
  rcases choice with found | ⟨absent, rfl, key, first, there, named⟩
  · have under : Under library p preferredMediaType (.place media) := ⟨es, i, here, found, denotes⟩
    obtain ⟨u, looked, last⟩ := inlined.lookupStands stands under
    rw [if_pos (inlined.holdsStand stands under), listed, found]
    exact ⟨.str preferredMediaType, u, rfl, nofun, looked, last⟩
  · have formedMap := Library.valueAtFormed formed p
    rw [here] at formedMap
    have usable := (Node.memberFormed formedMap there).1
    obtain ⟨t, denotes', last⟩ := inner 0 (List.getElem?_eq_some_iff.mp there).1
    cases denotes.symm.trans denotes'
    cases es with
    | nil => cases there
    | cons e rest =>
      cases there
      have shows : ∃ rest', d.parts.view v = .map ((key, value 0) :: rest') :=
        ⟨_, by rw [shows, filled, List.length_cons, List.range_succ_eq_map]; rfl⟩
      obtain ⟨rest', shows⟩ := shows
      have some : d.parts.holds v = true := by simp [Parts.holds, shows, Node.holds]
      rw [if_pos some, listed, absent]
      refine ⟨key, value 0, ?_, ?_, lookupFirst usable shows, last⟩
      · simp [Parts.items, shows, bind, Except.bind, pure, Except.pure]
      · rwa [viewUsable _ usable]

theorem Inlined.returnedName {operation schema : Place}
    (stands : Stands library w d.parts v (.place operation)) (formed : library.WellFormed)
    (returns : Returns library operation schema) {name : Node}
    (named : Resource.nameOf d.parts v = .ok name) {n : Node}
    (holds : ∃ key t, Under library schema key t)
    (finds : ∀ u found, Stands library w d.parts u (.place schema) →
      Resource.listItemSchema d.parts u = .ok found →
      ∃ m, found = some m ∧ d.parts.origin m = .ok n) : name = n := by
  obtain ⟨responses, response, content, media, underResponses, underResponse, underContent,
    chosen, underSchema⟩ := returns
  obtain ⟨u₁, field₁, stands₁⟩ := inlined.fieldStands stands underResponses
  obtain ⟨u₂, field₂, stands₂⟩ := inlined.fieldStands stands₁ underResponse
  obtain ⟨u₃, field₃, stands₃⟩ := inlined.fieldStands stands₂ underContent
  obtain ⟨key, u₄, chooses, text, looked, stands₄⟩ := inlined.chosenStands stands₃ formed chosen
  obtain ⟨u₅, field₅, stands₅⟩ := inlined.fieldStands stands₄ underSchema
  have own₁ : d.parts.orElse u₁ (.map []) = u₁ := if_pos (inlined.holdsStand stands₁ underResponse)
  have holds₂ := inlined.holdsStand stands₂ underContent
  obtain ⟨_, _, inside⟩ := holds
  have holds₅ := inlined.holdsStand stands₅ inside
  unfold Resource.nameOf at named
  have named := Fault.bindKnown named field₁
  rw [own₁] at named
  have named := Fault.bindKnown named field₂
  rw [if_neg (by rw [holds₂]; decide)] at named
  have named := Fault.bindKnown (refusedKnown named) field₃
  have named := Fault.bindKnown named chooses
  split at named
  · contradiction
  · have named := Fault.bindKnown named looked
    have named := Fault.bindKnown named field₅
    rw [if_neg (by rw [holds₅]; decide)] at named
    obtain ⟨found, told, named⟩ := Fault.bindOk (refusedKnown named)
    obtain ⟨m, rfl, origin⟩ := finds u₅ found stands₅ told
    exact Except.ok.inj (named.symm.trans origin)

end Reading
end Document
end ClientGen
