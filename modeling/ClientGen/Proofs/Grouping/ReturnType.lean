import ClientGen.Proofs.Grouping.Partition
import ClientGen.Proofs.Document.Fields

/-! What an operation is grouped by, and what it is typed by. The name of its resource is inferred
from the response declared under `default`, and the return type is that of the response declared
first. Within a response both choose the same media type, so they are about one schema wherever
`default` is declared first. -/
namespace ClientGen

theorem firstPartner {α β : Type} {R : α → β → Prop} {as : List α} {bs : List β}
    (pairs : List.Forall₂ R as bs) {p : α → Bool} {q : β → Bool}
    (alike : ∀ a b, R a b → p a = q b) :
    (∃ a b, as.find? p = some a ∧ bs.find? q = some b ∧ R a b) ∨
      as.find? p = none ∧ bs.find? q = none := by
  induction pairs with
  | nil => exact .inr ⟨rfl, rfl⟩
  | @cons a b as bs here _ ih =>
    have kind := alike a b here
    cases met : p a with
    | true =>
      refine .inl ⟨a, b, List.find?_cons_of_pos met, ?_, here⟩
      exact List.find?_cons_of_pos (kind ▸ met)
    | false =>
      rw [List.find?_cons_of_neg (by simp [met]), List.find?_cons_of_neg (by simp [← kind, met])]
      exact ih

namespace Content

variable {parts : Parts}

structure Read (parts : Parts) (e : Node × Node) (m : MediaType) : Prop where
  type : m.type = e.1
  schema : declaredSchema parts e.2 = .ok m.schema

theorem mediaTypesRead {es : Entries} {ms : List MediaType} (read : ofEntries parts es = .ok ms) :
    List.Forall₂ (Read parts) es ms := by
  induction es generalizing ms with
  | nil =>
    cases read
    exact .nil
  | cons e rest ih =>
    obtain ⟨m, first, read⟩ := Fault.bindOk read
    obtain ⟨ms', others, read⟩ := Fault.bindOk read
    cases read
    obtain ⟨schema, declared, first⟩ := Fault.bindOk first
    cases first
    exact .cons ⟨rfl, declared⟩ (ih others)

theorem preferredAlike (e : Node × Node) (m : MediaType) (read : Read parts e m) :
    (Node.str preferredMediaType).same e.1 = isPreferred m := by
  rw [Bool.eq_iff_iff, Node.sameTextIff, ← read.type]
  unfold isPreferred
  cases m.type <;> simp

theorem keyLeads {content : Node} {es : Entries} (held : parts.entries content = .ok es)
    (formed : Node.wellFormedEntries es = true) {e : Node × Node} {m : MediaType} (member : e ∈ es)
    (own : Read parts e m) :
    parts.view m.type = m.type ∧ ∃ media,
      parts.lookup content m.type = .ok media ∧ declaredSchema parts media = .ok m.schema := by
  have shows := Parts.entriesView held
  have usable := ((Node.wellFormedEntriesIff.mp formed).1 e member).1
  rw [own.type]
  refine ⟨Parts.viewUsable parts usable, e.2, ?_, own.schema⟩
  simp [Parts.lookup, shows, Parts.viewUsable parts usable, usable, Node.findKey?,
    Node.findSelf formed member]

theorem defaultRead {content : Node} (rows : parts.wellFormed = true)
    (ok : content.wellFormed = true) {c : Content} (read : ofNode parts content = .ok c) :
    defaultKey parts content = .ok ((c.default?.map (·.type)).getD .null) ∧
    ∀ m, c.default? = some m → parts.view m.type = m.type ∧
      ∃ media, parts.lookup content m.type = .ok media ∧ declaredSchema parts media = .ok m.schema := by
  unfold ofNode at read
  unfold defaultKey
  split at read
  · rename_i holds
    rw [if_pos holds]
    obtain ⟨es, held, read⟩ := Fault.bindOk read
    obtain ⟨ms, each, last⟩ := Fault.bindOk read
    cases last
    have formed := Parts.entriesFormed rows ok held
    have shows := Parts.entriesView held
    have pairs := mediaTypesRead each
    have listed : parts.contains content (.str preferredMediaType) =
        .ok (es.find? fun e => (Node.str preferredMediaType).same e.1).isSome := by
      simp only [Parts.contains, shows, List.isSome_find?]
    rw [listed]
    have leads {e : Node × Node} {m : MediaType} (member : e ∈ es) (own : Read parts e m) :=
      keyLeads held formed member own
    unfold default?
    rcases firstPartner pairs preferredAlike with ⟨e, m, inside, first, own⟩ | ⟨absent, none⟩
    · have named : e.1 = .str preferredMediaType :=
        Node.sameTextIff.mp (by simpa using List.find?_some inside)
      simp only [inside, first]
      refine ⟨?_, ?_⟩
      · rw [Option.map_some, Option.getD_some, own.type, named]
        rfl
      · rintro _ ⟨⟩
        exact leads (List.mem_of_find?_eq_some inside) own
    · simp only [absent, none]
      cases pairs with
      | nil =>
        refine ⟨by simp [Parts.items, shows, bind, Except.bind, pure, Except.pure], ?_⟩
        rintro _ ⟨⟩
      | @cons e m rest ms own _ =>
        refine ⟨?_, ?_⟩
        · simp [Parts.items, shows, own.type, bind, Except.bind, pure, Except.pure]
        · rintro _ ⟨⟩
          exact leads List.mem_cons_self own
  · rename_i empty
    cases read
    rw [if_neg empty]
    refine ⟨rfl, ?_⟩
    rintro _ ⟨⟩

theorem defaultChosen {content : Node} (rows : parts.wellFormed = true)
    (ok : content.wellFormed = true) {c : Content} (read : ofNode parts content = .ok c)
    {key media : Node} (chosen : defaultKey parts content = .ok key)
    (there : parts.view key ≠ .null)
    (looked : parts.lookup content (parts.view key) = .ok media) :
    ∃ m, c.requireDefault = .ok m ∧ declaredSchema parts media = .ok m.schema := by
  obtain ⟨default, found⟩ := defaultRead rows ok read
  cases chosen.symm.trans default
  cases first : c.default? with
  | none =>
    rw [first] at there
    exact absurd rfl there
  | some m =>
    obtain ⟨shown, media', looked', declared⟩ := found m first
    rw [first, Option.map_some, Option.getD_some, shown] at looked
    cases looked.symm.trans looked'
    exact ⟨m, by rw [requireDefault, first], declared⟩

end Content

theorem readEachPairs {α β : Type} {read : α → Except Fault β} {as : List α} {bs : List β}
    (ok : readEach read as = .ok bs) : List.Forall₂ (fun a b => read a = .ok b) as bs := by
  induction as generalizing bs with
  | nil =>
    cases ok
    exact .nil
  | cons a rest ih =>
    obtain ⟨b, first, ok⟩ := Fault.bindOk ok
    obtain ⟨bs', others, ok⟩ := Fault.bindOk ok
    cases ok
    exact .cons first (ih others)

namespace Resource

variable (parts : Parts)

def groupingSchema (operation : Node) : Except Fault (Option Node) := do
  let responses := parts.orElse (← parts.field operation "responses") (.map [])
  let response ← parts.field responses "default"
  if !parts.holds response then return none
  let content ← parts.field (← parts.refuseReference response) "content"
  let key ← Content.defaultKey parts content
  match parts.view key with
  | .null => return none
  | key =>
    let schema ← parts.field (← parts.lookup content key) "schema"
    if !parts.holds schema then return none
    return some (← parts.refuseReference schema)

def nameOfSchema : Option Node → Except Fault Node
  | none => .ok .null
  | some schema => do
    match ← listItemSchema parts schema with
    | none => return .null
    | some item => parts.origin item

variable {parts : Parts}

theorem nameOfGrouping (operation : Node) :
    nameOf parts operation = groupingSchema parts operation >>= nameOfSchema parts := by
  unfold nameOf groupingSchema
  simp only [bind_assoc]
  refine bind_congr fun responses => bind_congr fun response => ?_
  split
  · rfl
  · simp only [bind_assoc]
    refine bind_congr fun response => bind_congr fun content => bind_congr fun key => ?_
    cases parts.view key with
    | null => rfl
    | _ =>
      simp only [bind_assoc]
      refine bind_congr fun media => bind_congr fun schema => ?_
      split
      · rfl
      · simp only [bind_assoc]
        exact bind_congr fun schema => rfl

structure Grouping (parts : Parts) (operation response content media schema : Node) : Prop where
  declared : ∃ responses, parts.field operation "responses" = .ok responses ∧
    parts.field (parts.orElse responses (.map [])) "default" = .ok response
  there : parts.holds response = true
  plain : parts.refuseReference response = .ok response
  inside : parts.field response "content" = .ok content
  chosen : ∃ key, Content.defaultKey parts content = .ok key ∧ parts.view key ≠ .null ∧
    parts.lookup content (parts.view key) = .ok media
  returned : Content.declaredSchema parts media = .ok schema

theorem groupingRead {operation schema : Node}
    (found : groupingSchema parts operation = .ok (some schema)) :
    ∃ response content media, Grouping parts operation response content media schema := by
  unfold groupingSchema at found
  obtain ⟨responses, declared, found⟩ := Fault.bindOk found
  obtain ⟨response, own, found⟩ := Fault.bindOk found
  cases there : parts.holds response with
  | false => simp [there, pure, Except.pure] at found
  | true =>
    rw [if_neg (by simp [there])] at found
    obtain ⟨response', plain, found⟩ := Fault.bindOk found
    cases Parts.refuseReferenceSame plain
    obtain ⟨content, inside, found⟩ := Fault.bindOk found
    obtain ⟨key, chosen, found⟩ := Fault.bindOk found
    split at found
    · cases found
    · rename_i other
      obtain ⟨media, looked, found⟩ := Fault.bindOk found
      obtain ⟨schema', value, found⟩ := Fault.bindOk found
      cases some : parts.holds schema' with
      | false => simp [some, pure, Except.pure] at found
      | true =>
        rw [if_neg (by simp [some])] at found
        obtain ⟨schema'', refused, found⟩ := Fault.bindOk found
        cases found
        refine ⟨response, content, media, ⟨responses, declared, own⟩, there, plain, inside,
          ⟨key, chosen, fun null => other null, looked⟩, ?_⟩
        unfold Content.declaredSchema
        rw [value]
        exact (if_pos some).trans refused

theorem groupedBySchema {operation name : Node} (named : nameOf parts operation = .ok name)
    (told : parts.view name ≠ .null) : ∃ schema item,
      groupingSchema parts operation = .ok (some schema) ∧
      listItemSchema parts schema = .ok (some item) ∧ parts.origin item = .ok name := by
  rw [nameOfGrouping] at named
  obtain ⟨found, grouping, named⟩ := Fault.bindOk named
  cases found with
  | none =>
    cases named
    exact absurd rfl told
  | some schema =>
    obtain ⟨item, unwrapped, named⟩ := Fault.bindOk named
    cases item with
    | none =>
      cases named
      exact absurd rfl told
    | some item => exact ⟨schema, item, grouping, unwrapped, named⟩

end Resource

namespace Operation

variable {parts : Parts}

def declaredResponses (parts : Parts) (operation : Node) : Entries :=
  Grouping.members parts
    ((Entries.at? "responses" (Grouping.members parts operation)).getD .null)

theorem responsesRead {path method : String} {raw : Node} {o : Operation}
    (read : ofNode parts path method raw = .ok o) :
    List.Forall₂ (fun e r => Response.ofNode parts (parts.plainText e.1) e.2 = .ok r)
      (declaredResponses parts raw) o.responses := by
  have own := (sources read).responses
  obtain ⟨declared, found, own⟩ := Fault.bindOk own
  obtain ⟨es, held, own⟩ := Fault.bindOk own
  have same : es = declaredResponses parts raw := by
    rw [Grouping.entriesMembers held, Grouping.orElseMembers, Grouping.fieldMember found]
    rfl
  exact same ▸ readEachPairs own

theorem partnerAt {α β : Type} {R : α → β → Prop} {as : List α} {bs : List β}
    (pairs : List.Forall₂ R as bs) {i : Nat} {a : α} (at_ : as[i]? = some a) :
    ∃ b, bs[i]? = some b ∧ R a b := by
  induction pairs generalizing i with
  | nil => simp at at_
  | cons here _ ih =>
    cases i with
    | zero =>
      cases at_
      exact ⟨_, rfl, here⟩
    | succ i => exact ih at_

theorem declaredDefault {raw response : Node}
    (declared : ∃ responses, parts.field raw "responses" = .ok responses ∧
      parts.field (parts.orElse responses (.map [])) "default" = .ok response)
    (there : parts.holds response = true) :
    ∃ i, Reference.indexOfKey? "default" (declaredResponses parts raw) = some i ∧
      (declaredResponses parts raw)[i]? = some (.str "default", response) := by
  obtain ⟨responses, found, under⟩ := declared
  have value := Grouping.fieldMember under
  rw [Grouping.orElseMembers, Grouping.fieldMember found] at value
  change response = (Entries.at? "default" (declaredResponses parts raw)).getD .null at value
  rw [Reference.atIndex] at value
  cases place : Reference.indexOfKey? "default" (declaredResponses parts raw) with
  | none =>
    rw [place] at value
    subst value
    cases there
  | some i =>
    obtain ⟨v, stands⟩ := Reference.indexBound place
    rw [place] at value
    have same : response = v := by simpa [stands] using value
    exact ⟨i, rfl, same ▸ stands⟩

theorem responseContent {code : String} {raw content : Node} {r : Response}
    (read : Response.ofNode parts code raw = .ok r)
    (plain : parts.refuseReference raw = .ok raw)
    (inside : parts.field raw "content" = .ok content) :
    r.code = code ∧ Content.ofNode parts content = .ok r.content := by
  unfold Response.ofNode at read
  have read := Fault.bindKnown read plain
  have read := Fault.bindKnown read inside
  obtain ⟨c, contents, read⟩ := Fault.bindOk read
  obtain ⟨_, _, read⟩ := Fault.bindOk read
  cases read
  exact ⟨rfl, contents⟩

theorem contentFormed {raw response content : Node} (rows : parts.wellFormed = true)
    (ok : raw.wellFormed = true)
    (declared : ∃ responses, parts.field raw "responses" = .ok responses ∧
      parts.field (parts.orElse responses (.map [])) "default" = .ok response)
    (inside : parts.field response "content" = .ok content) : content.wellFormed = true := by
  obtain ⟨responses, found, under⟩ := declared
  have whole := Parts.fieldFormed rows ok found
  exact Parts.fieldFormed rows
    (Parts.fieldFormed rows (Parts.orElseFormed whole rfl) under) inside

-- An operation is grouped by what its response under `default` returns, and where that response is
-- declared first this is also what it is typed by.
theorem typedAsGrouped {path method : String} {raw name : Node} {o : Operation}
    (rows : parts.wellFormed = true) (ok : raw.wellFormed = true)
    (read : ofNode parts path method raw = .ok o)
    (named : Resource.nameOf parts raw = .ok name) (told : parts.view name ≠ .null) :
    ∃ i response media item,
      Reference.indexOfKey? "default" (declaredResponses parts raw) = some i ∧
      o.responses[i]? = some response ∧ response.code = "default" ∧
      response.content.requireDefault = .ok media ∧
      Resource.groupingSchema parts raw = .ok (some media.schema) ∧
      Resource.listItemSchema parts media.schema = .ok (some item) ∧
      parts.origin item = .ok name ∧
      (i = 0 → o.defaultResponse parts = .ok response) := by
  obtain ⟨schema, item, grouping, unwrapped, origin⟩ := Resource.groupedBySchema named told
  obtain ⟨declared, content, media, own⟩ := Resource.groupingRead grouping
  obtain ⟨key, chosen, other, looked⟩ := own.chosen
  obtain ⟨i, place, stands⟩ := declaredDefault own.declared own.there
  obtain ⟨response, there, response'⟩ := partnerAt (responsesRead read) stands
  obtain ⟨code, contents⟩ := responseContent response' own.plain own.inside
  have code : response.code = "default" := by
    rw [code, Parts.plainText, Parts.closeUsable parts rfl]
    rfl
  have formed := contentFormed rows ok own.declared own.inside
  obtain ⟨m, default, schema'⟩ := Content.defaultChosen rows formed contents chosen other looked
  cases own.returned.symm.trans schema'
  refine ⟨i, response, m, item, place, there, code, default, grouping, unwrapped, origin, ?_⟩
  rintro rfl
  unfold defaultResponse
  cases all : o.responses with
  | nil => simp [all] at there
  | cons first rest =>
    rw [all] at there
    cases there
    rfl

def returning (schema : Node) : Node := Node.object [("content", Node.object [
  ("text/plain", Node.object [("schema", Grouping.text)]),
  ("application/json", Node.object [("schema", schema)])])]

def listing (first : String) (returned : Node) (second : String) (returned' : Node) : Node :=
  Node.object [("responses",
    Node.object [(first, returning returned), (second, returning returned')])]

def pet : Node := Grouping.component "Pet"

theorem petTyped : ∃ o, ofNode [] "/pets" "get" (listing "default" pet "404" Grouping.text) = .ok o ∧
    ∃ response media, o.defaultResponse [] = .ok response ∧
      response.content.requireDefault = .ok media ∧
      Resource.groupingSchema [] (listing "default" pet "404" Grouping.text) =
        .ok (some media.schema) ∧
      ∃ item, Resource.listItemSchema [] media.schema = .ok (some item) ∧
        Parts.origin [] item = .ok (.str "Pet") := by
  refine ⟨_, rfl, ?_⟩
  obtain ⟨i, response, media, item, place, _, _, default, schema, unwrapped, origin, first⟩ :=
    @typedAsGrouped [] "/pets" "get" (listing "default" pet "404" Grouping.text) (.str "Pet") _
      rfl (by decide) rfl rfl nofun
  cases place
  exact ⟨response, media, first rfl, default, schema, item, unwrapped, origin⟩

-- A pet is returned under `default`, but a text is declared before it.
theorem petMistyped : ∃ o response media,
    ofNode [] "/pets" "get" (listing "200" Grouping.text "default" pet) = .ok o ∧
    Resource.nameOf [] (listing "200" Grouping.text "default" pet) = .ok (.str "Pet") ∧
    o.defaultResponse [] = .ok response ∧ response.content.requireDefault = .ok media ∧
    Resource.groupingSchema [] (listing "200" Grouping.text "default" pet) = .ok (some pet) ∧
    ¬ ∃ item, Resource.listItemSchema [] media.schema = .ok (some item) ∧
      Parts.origin [] item = .ok (.str "Pet") := by
  refine ⟨_, _, _, rfl, rfl, rfl, rfl, rfl, ?_⟩
  rintro ⟨item, unwrapped, origin⟩
  cases unwrapped
  cases origin

end Operation
end ClientGen
