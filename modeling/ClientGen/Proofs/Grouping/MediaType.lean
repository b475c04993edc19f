import ClientGen.Proofs.Grouping.ReturnType

/-! One rule for the default media type. Content as it is declared and content as it is read agree
on it, and so do the schemas that operations are grouped and typed by. Only a media type whose key
is nothing is taken for none where content is read as it is declared. -/
namespace ClientGen

variable {parts : Parts} {content : Node}

namespace Content

def Told (parts : Parts) (content : Node) : Prop :=
  ∀ es, parts.view content = .map es → ∀ e ∈ es, e.1 ≠ .null

theorem Told.unlooked (told : Told parts content) (media : Node) :
    parts.lookup content .null ≠ .ok media := by
  intro looked
  unfold Parts.lookup at looked
  split at looked
  · rename_i es shows
    rw [Parts.viewUsable parts rfl] at looked
    cases found : Node.findKey? .null es with
    | none => simp [found, Node.hashable] at looked
    | some v =>
      obtain ⟨e, inside, _⟩ := Option.map_eq_some_iff.mp found
      have same : Node.null.same e.1 = true := by simpa using List.find?_some inside
      refine told es shows e (List.mem_of_find?_eq_some inside) ?_
      generalize e.1 = key at same
      cases key with
      | null => rfl
      | _ => cases same
  · cases looked
  · cases looked
  · cases looked

def defaultSchema (parts : Parts) (c : Content) : Option Node :=
  (c.default?.map (·.schema)).filter parts.holds

theorem declaredRead {media schema : Node} (declared : declaredSchema parts media = .ok schema) :
    ∃ raw, parts.field media "schema" = .ok raw ∧ schema = parts.orElse raw (.map []) ∧
      (parts.holds raw = true → parts.refuseReference raw = .ok raw) := by
  obtain ⟨raw, found, declared⟩ := Fault.bindOk declared
  refine ⟨raw, found, ?_⟩
  unfold Parts.orElse
  split at declared
  · rename_i holds
    cases Parts.refuseReferenceSame declared
    exact ⟨by rw [if_pos holds], fun _ => declared⟩
  · rename_i empty
    cases declared
    exact ⟨by rw [if_neg empty], fun holds => absurd holds empty⟩

end Content

namespace Resource
open Content

structure Answers (parts : Parts) (operation content : Node) : Prop where
  response : ∃ responses response, parts.field operation "responses" = .ok responses ∧
    parts.field (parts.orElse responses (.map [])) "default" = .ok response ∧
    parts.holds response = true ∧ parts.refuseReference response = .ok response ∧
    parts.field response "content" = .ok content

theorem groupingReads {operation key : Node} (answers : Answers parts operation content)
    (chosen : defaultKey parts content = .ok key) :
    groupingSchema parts operation =
      match parts.view key with
      | .null => .ok none
      | key => do
        let schema ← parts.field (← parts.lookup content key) "schema"
        if !parts.holds schema then return none
        return some (← parts.refuseReference schema) := by
  obtain ⟨responses, response, declared, default, holds, plain, inside⟩ := answers.response
  simp only [groupingSchema, declared, default, holds, plain, inside, chosen, bind, Except.bind,
    Bool.not_true, Bool.false_eq_true, if_false]
  rfl

theorem groupedByDefault {operation : Node} (answers : Answers parts operation content)
    (rows : parts.wellFormed = true) (ok : content.wellFormed = true) {c : Content}
    (read : ofNode parts content = .ok c) (told : Told parts content) :
    groupingSchema parts operation = .ok (c.defaultSchema parts) := by
  obtain ⟨chosen, found⟩ := defaultRead rows ok read
  rw [groupingReads answers chosen, defaultSchema]
  cases first : c.default? with
  | none => rfl
  | some m =>
    obtain ⟨shown, media, looked, declared⟩ := found m first
    obtain ⟨raw, value, schema, plain⟩ := declaredRead declared
    rw [Option.map_some, Option.getD_some, shown]
    split
    · rename_i null
      rw [null] at looked
      exact absurd looked (told.unlooked media)
    · rw [looked, Option.map_some, schema, Parts.orElse, Option.filter_some]
      simp only [value, bind, Except.bind]
      cases holds : parts.holds raw with
      | true => simp [holds, plain holds, pure, Except.pure]
      | false => rfl

end Resource

namespace Content
open Resource

-- Content is read with the media type that it is grouped by, and both read one schema there.
theorem mediaRulesAgree (rows : parts.wellFormed = true) (ok : content.wellFormed = true)
    {c : Content} (read : ofNode parts content = .ok c) :
    ∃ key, defaultKey parts content = .ok key ∧ key = (c.default?.map (·.type)).getD .null ∧
      (∀ m, c.default? = some m → ∃ media raw, parts.lookup content key = .ok media ∧
        parts.field media "schema" = .ok raw ∧ m.schema = parts.orElse raw (.map [])) ∧
      (Told parts content → (key = .null ↔ c.default? = none) ∧
        ∀ operation, Answers parts operation content →
          groupingSchema parts operation = .ok (c.defaultSchema parts) ∧
          nameOf parts operation = nameOfSchema parts (c.defaultSchema parts)) := by
  obtain ⟨chosen, found⟩ := defaultRead rows ok read
  refine ⟨_, chosen, rfl, fun m first => ?_, fun told => ⟨?_, fun operation answers => ?_⟩⟩
  · obtain ⟨_, media, looked, declared⟩ := found m first
    obtain ⟨raw, value, schema, _⟩ := declaredRead declared
    rw [first]
    exact ⟨media, raw, looked, value, schema⟩
  · cases first : c.default? with
    | none => exact ⟨fun _ => rfl, fun _ => rfl⟩
    | some m =>
      obtain ⟨_, media, looked, _⟩ := found m first
      refine ⟨fun null => ?_, nofun⟩
      rw [show m.type = .null from null] at looked
      exact absurd looked (told.unlooked media)
  · have grouped := groupedByDefault answers rows ok read told
    refine ⟨grouped, ?_⟩
    rw [nameOfGrouping, grouped]
    rfl

def answering (content : Node) : Node :=
  Node.object [("responses", Node.object [("default", Node.object [("content", content)])])]

def petContent : Node := Node.object [("text/plain", Node.object [("schema", Grouping.text)]),
  (preferredMediaType, Node.object [("schema", Operation.pet)])]

theorem petContentAgrees : Told [] petContent ∧ Answers [] (answering petContent) petContent ∧
    ∃ c m, ofNode [] petContent = .ok c ∧ c.default? = some m ∧
      defaultKey [] petContent = .ok m.type ∧ m.type = .str preferredMediaType ∧
      groupingSchema [] (answering petContent) = .ok (some m.schema) := by
  have told : Told [] petContent := by
    rintro es shows e member
    cases shows
    rcases List.mem_cons.mp member with rfl | last
    · exact nofun
    · cases List.mem_singleton.mp last
      exact nofun
  have answers : Answers [] (answering petContent) petContent :=
    ⟨⟨_, _, rfl, rfl, rfl, rfl, rfl⟩⟩
  obtain ⟨key, chosen, own, _, agreed⟩ := @mediaRulesAgree [] petContent rfl (by decide) _ rfl
  refine ⟨told, answers, _, _, rfl, rfl, ?_, rfl, ((agreed told).2 _ answers).1⟩
  rw [chosen, own]
  rfl

-- A media type that is declared under nothing is read, and not grouped by.
theorem nullTypeUntold :
    let content := Node.map [(.null, Node.object [("schema", Operation.pet)])]
    ∃ c m, ofNode [] content = .ok c ∧ c.default? = some m ∧ m.schema = Operation.pet ∧
      defaultKey [] content = .ok .null ∧ groupingSchema [] (answering content) = .ok none ∧
      nameOf [] (answering content) = .ok .null :=
  ⟨_, _, rfl, rfl, rfl, rfl, rfl, rfl⟩

end Content

end ClientGen
