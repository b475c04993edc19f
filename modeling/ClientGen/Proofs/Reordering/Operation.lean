import ClientGen.Proofs.Grouping.Partition
import ClientGen.Proofs.Reordering.Reading

/-! Operations of documents that differ in the order of their keys. They have the same parameters, media
types and responses in the same order, and their schemas differ again only in the order of keys. -/
namespace ClientGen.Reordering
open Parts Compile
open Node (Apart)

section Relations

variable (parts parts' : Parts)

structure SameParameter (p q : Parameter) : Prop where
  name : Unchanged parts parts' p.name q.name
  location : Equal parts parts' p.location q.location
  required : p.required = q.required
  schema : Reordered parts parts' .schema p.schema q.schema
  description : Equal parts parts' p.description q.description

structure SameMedia (m n : MediaType) : Prop where
  type : m.type = n.type
  schema : Reordered parts parts' .schema m.schema n.schema

abbrev SameContent (c d : Content) : Prop :=
  List.Forall₂ (SameMedia parts parts') c.mediaTypes d.mediaTypes

structure SameResponse (r s : Response) : Prop where
  code : r.code = s.code
  content : SameContent parts parts' r.content s.content
  description : Equal parts parts' r.description s.description

structure SameOperation (o p : Operation) : Prop where
  id : Equal parts parts' o.id p.id
  path : o.path = p.path
  method : o.method = p.method
  summary : Equal parts parts' o.summary p.summary
  description : Equal parts parts' o.description p.description
  tags : List.Forall₂ (Equal parts parts') o.tags p.tags
  parameters : List.Forall₂ (SameParameter parts parts') o.parameters p.parameters
  request : Option.Rel (SameContent parts parts') o.request p.request
  responses : List.Forall₂ (SameResponse parts parts') o.responses p.responses

end Relations

variable {parts parts' : Parts} {a b : Node}

theorem readEachAgree {α β γ δ : Type} {R : α → β → Prop} {S : γ → δ → Prop}
    {read : α → Except Fault γ} {read' : β → Except Fault δ}
    (each : ∀ x y, R x y → Agree S (read x) (read' y)) {xs : List α} {ys : List β}
    (together : List.Forall₂ R xs ys) :
    Agree (List.Forall₂ S) (readEach read xs) (readEach read' ys) := by
  induction together with
  | nil => exact .read .nil
  | cons here _ ih =>
    refine (each _ _ here).bind fun c d first => ?_
    exact ih.bind fun cs ds rest => .read (.cons first rest)

theorem textEqual {v w : Node} (equal : Equal parts parts' v w) (s : String) :
    parts.isText v s = parts'.isText w s := by
  have read (ps : Parts) (n : Node) : ps.isText n s = ((ps.view n).text? == some s) := by
    unfold Parts.isText
    cases ps.view n <;> rfl
  rw [read, read, equalText equal]

theorem okBind {α β : Type} (a : α) (f : α → Except Fault β) : (Except.ok a >>= f) = f a := rfl

section Matched

variable {es es' : Entries} (matched : Matched parts parts' .parameter es es')
include matched

theorem plainEqual {key : String} (plain : Role.parameter.reading (.str key) = .plain)
    {default : Node} (usable : default.hashable = true) :
    Equal parts parts' ((Entries.at? key es).getD default) ((Entries.at? key es').getD default) := by
  rcases textFound matched key with ⟨left, right⟩ | ⟨v, w, left, right, reads⟩
  · rw [left, right]
    exact equalUsable usable
  · rw [left, right]
    rw [plain] at reads
    cases reads with
    | plain unchanged => exact unchanged.equal

theorem requiredSame : parts.holds ((Entries.at? "required" es).getD .null) =
    parts'.holds ((Entries.at? "required" es').getD .null) := by
  have reads := textRead matched "required"
  generalize (Entries.at? "required" es).getD .null = v at reads
  generalize (Entries.at? "required" es').getD .null = w at reads
  cases reads with
  | truth same => exact same

end Matched

theorem parameterAgree (same : Reordered parts parts' .parameter a b) :
    Agree (SameParameter parts parts') (Parameter.ofNode parts a) (Parameter.ofNode parts' b) := by
  unfold Parameter.ofNode
  refine (same.accepted rfl).bind ?_
  rintro _ _ ⟨rfl, rfl⟩
  refine (same.fieldAs rfl).bind fun declared declared' inner => ?_
  rcases same.mapped with ⟨es, es', left, right, matched⟩ | ⟨left, right⟩
  · rw [entriesShown left, entriesShown right]
    rw [okBind, okBind]
    rcases textFound matched "name" with ⟨none, none'⟩ | ⟨name, name', found, found', reads⟩
    · rw [none, none']
      exact .refused _
    · have read {schema schema' : Node} (alike : Reordered parts parts' .schema schema schema') :
          SameParameter parts parts'
            ⟨name, (Entries.at? "in" es).getD (.str "query"),
              parts.holds ((Entries.at? "required" es).getD .null), schema,
              (Entries.at? "description" es).getD .null⟩
            ⟨name', (Entries.at? "in" es').getD (.str "query"),
              parts'.holds ((Entries.at? "required" es').getD .null), schema',
              (Entries.at? "description" es').getD .null⟩ := by
        cases reads with
        | plain unchanged => exact {
            name := unchanged
            location := plainEqual matched rfl rfl
            required := requiredSame matched
            schema := alike
            description := plainEqual matched rfl rfl }
      rw [found, found']
      dsimp only
      rw [inner.holds]
      split
      · refine (inner.accepted rfl).bind ?_
        rintro _ _ ⟨rfl, rfl⟩
        exact .read (read inner)
      · exact .read (read reorderedEmpty)
  · rw [(entriesOther left).1, (entriesOther right).1]
    exact .refused _

theorem declaredAgree (same : Reordered parts parts' .mediaType a b) :
    Agree (Reordered parts parts' .schema) (Content.declaredSchema parts a)
      (Content.declaredSchema parts' b) := by
  unfold Content.declaredSchema
  refine (same.fieldAs rfl).bind fun schema schema' inner => ?_
  rw [inner.holds]
  split
  · refine (inner.accepted rfl).imp ?_
    rintro _ _ ⟨rfl, rfl⟩
    exact inner
  · exact .read reorderedEmpty

theorem mediaTypeAgree {type type' : Node} (types : type = type')
    (raw : Reordered parts parts' .mediaType a b) :
    Agree (SameMedia parts parts') (Content.mediaType parts type a)
      (Content.mediaType parts' type' b) := by
  unfold Content.mediaType
  exact (declaredAgree raw).bind fun schema schema' alike => .read ⟨types, alike⟩

theorem mediaTypesAgree {es es' : Entries}
    (each : AlikeTables (Reordered parts parts' .mediaType) es es') :
    Agree (List.Forall₂ (SameMedia parts parts')) (Content.ofEntries parts es)
      (Content.ofEntries parts' es') := by
  induction each with
  | nil => exact .read .nil
  | cons here _ ih =>
    obtain ⟨types, _, raw⟩ := here
    refine (mediaTypeAgree types raw).bind fun m m' first => ?_
    exact ih.bind fun ms ms' rest => .read (.cons first rest)

theorem contentAgree (same : Reordered parts parts' .content a b) :
    Agree (SameContent parts parts') (Content.ofNode parts a) (Content.ofNode parts' b) := by
  unfold Content.ofNode
  rw [same.holds]
  split
  · refine (same.entries rfl rfl).bind fun es es' each => ?_
    exact (mediaTypesAgree each).bind fun ms ms' media => .read media
  · exact .read .nil

theorem responseAgree {code code' : String} (spelled : code = code')
    (same : Reordered parts parts' .response a b) :
    Agree (SameResponse parts parts') (Response.ofNode parts code a)
      (Response.ofNode parts' code' b) := by
  unfold Response.ofNode
  refine (same.accepted rfl).bind ?_
  rintro _ _ ⟨rfl, rfl⟩
  refine (same.fieldAs rfl).bind fun declared declared' inner => ?_
  refine (contentAgree inner).bind fun content content' media => ?_
  refine (same.fieldPlain rfl).bind fun text text' unchanged => .read ?_
  exact ⟨spelled, media, unchanged.equal⟩

theorem responsesAgree (same : Reordered parts parts' .operation a b) :
    Agree (List.Forall₂ (SameResponse parts parts')) (Operation.responsesOf parts a)
      (Operation.responsesOf parts' b) := by
  unfold Operation.responsesOf
  refine (same.fieldAs rfl).bind fun declared declared' inner => ?_
  refine ((inner.orElse reorderedEmpty).entries rfl rfl).bind fun es es' each => ?_
  refine readEachAgree (fun p q entry => ?_) each
  obtain ⟨key, usable, response⟩ := entry
  refine responseAgree ?_ response
  have equal : Equal parts parts' p.1 p.1 := equalUsable usable
  rw [plainText, plainText, ← key, show parts.close p.1 = parts'.close p.1 from equal]

theorem requestAgree (same : Reordered parts parts' .operation a b) :
    Agree (Option.Rel (SameContent parts parts')) (Operation.requestOf parts a)
      (Operation.requestOf parts' b) := by
  unfold Operation.requestOf
  refine (same.fieldAs rfl).bind fun body body' inner => ?_
  rw [inner.holds]
  split
  · refine (inner.accepted rfl).bind ?_
    rintro _ _ ⟨rfl, rfl⟩
    refine (inner.fieldAs rfl).bind fun declared declared' content => ?_
    exact (contentAgree content).bind fun _ _ media => .read (.some media)
  · exact .read .none

theorem emptyParameters : Reordered parts parts' .parameters (.list []) (.list []) :=
  .list rfl rfl rfl nofun

theorem tagsAgree {tags tags' : Node} (unchanged : Unchanged parts parts' tags tags') :
    Agree (List.Forall₂ (Equal parts parts')) (parts.items (parts.orElse tags (.list [])))
      (parts'.items (parts'.orElse tags' (.list []))) := by
  rw [Parts.orElse, Parts.orElse, equalHolds unchanged.equal]
  split
  · exact unchanged.items
  · exact .read .nil

theorem orElseEqual {v w : Node} (equal : Equal parts parts' v w) (s : String) :
    Equal parts parts' (parts.orElse v (.str s)) (parts'.orElse w (.str s)) := by
  rw [Parts.orElse, Parts.orElse, equalHolds equal]
  split
  · exact equal
  · exact equalUsable rfl

theorem operationAgree (path method : String) (same : Reordered parts parts' .operation a b) :
    Agree (SameOperation parts parts') (Operation.ofNode parts path method a)
      (Operation.ofNode parts' path method b) := by
  unfold Operation.ofNode
  refine (same.fieldAs rfl).bind fun declared declared' inner => ?_
  refine ((inner.orElse emptyParameters).items rfl rfl).bind fun raws raws' each => ?_
  refine (readEachAgree (fun _ _ raw => parameterAgree raw) each).bind fun ps ps' parameters => ?_
  refine (requestAgree same).bind fun body body' request => ?_
  refine (responsesAgree same).bind fun rs rs' responses => ?_
  refine (same.fieldPlain rfl).bind fun id id' named => ?_
  refine (same.fieldPlain rfl).bind fun declared declared' tagged => ?_
  refine (same.fieldPlain rfl).bind fun summary summary' title => ?_
  refine (same.fieldPlain rfl).bind fun text text' told => ?_
  refine (tagsAgree tagged).bind fun tags tags' labels => .read ?_
  exact ⟨orElseEqual named.equal _, rfl, rfl, title.equal, told.equal, labels, parameters, request,
    responses⟩

theorem keysInsert (k v : Node) (es : Entries) : (Node.insertKey k v es).map (·.1) =
    if es.any (fun e => k.same e.1) then es.map (·.1) else es.map (·.1) ++ [k] := by
  induction es with
  | nil => rfl
  | cons e rest ih =>
    obtain ⟨k', v'⟩ := e
    rw [Node.insertKey]
    cases met : k.same k' with
    | true => simp [met]
    | false =>
      simp only [Bool.false_eq_true, ↓reduceIte, List.map_cons, List.any_cons, met, Bool.false_or,
        ih]
      split <;> rfl

theorem insertApart {k v : Node} {es : Entries} (usable : k.hashable = true)
    (apart : Apart (es.map (·.1))) : Apart ((Node.insertKey k v es).map (·.1)) := by
  rw [keysInsert]
  split
  · exact apart
  · rename_i fresh
    refine ⟨?_, ?_⟩
    · simpa [or_imp, forall_and, usable] using apart.1
    · rw [List.map_append, List.map_singleton, List.nodup_append]
      refine ⟨apart.2, List.nodup_singleton _, ?_⟩
      intro x there y last same
      obtain ⟨k', member, rfl⟩ := List.mem_map.mp there
      obtain ⟨e, inside, rfl⟩ := List.mem_map.mp member
      rw [List.mem_singleton] at last
      have met := (Node.sameKey usable e.1).mpr ⟨apart.1 _ member, (same.trans last).symm⟩
      exact fresh (List.any_eq_true.mpr ⟨e, inside, met⟩)

theorem insertAlike {R : Node → Node → Prop} {k v w : Node} (alike : R v w)
    (usable : k.hashable = true) {es es' : Entries} (each : AlikeTables R es es') :
    AlikeTables R (Node.insertKey k v es) (Node.insertKey k w es') := by
  induction each with
  | nil => exact .cons ⟨rfl, usable, alike⟩ .nil
  | @cons e e' rest rest' here later ih =>
    obtain ⟨key, value⟩ := e
    obtain ⟨key', value'⟩ := e'
    obtain ⟨rfl, usable', inner⟩ := here
    rw [Node.insertKey, Node.insertKey]
    split
    · exact .cons ⟨rfl, usable', alike⟩ later
    · exact .cons ⟨rfl, usable', inner⟩ ih

theorem pairsAlike {R : Node → Node → Prop} {ps qs : Entries} (each : AlikeTables R ps qs)
    {es es' : Entries} (before : AlikeTables R es es') (apart : Apart (es.map (·.1))) :
    AlikeTables R (ps.foldl (fun es p => Node.insertKey p.1 p.2 es) es)
      (qs.foldl (fun es p => Node.insertKey p.1 p.2 es) es') ∧
      Apart ((ps.foldl (fun es p => Node.insertKey p.1 p.2 es) es).map (·.1)) := by
  induction each generalizing es es' with
  | nil => exact ⟨before, apart⟩
  | @cons p q ps qs here _ ih =>
    obtain ⟨k, v⟩ := p
    obtain ⟨k', w⟩ := q
    obtain ⟨rfl, usable, alike⟩ := here
    exact ih (insertAlike alike usable before) (insertApart usable apart)

theorem propertiesTable {ps qs : Entries}
    (each : AlikeTables (Reordered parts parts' .schema) ps qs) (apart : Apart (ps.map (·.1))) :
    Reordered parts parts' .properties (.map ps) (.map qs) := by
  have matched : Matched parts parts' .properties ps qs :=
    togetherMatched apart (each.imp fun p q here => ⟨here.1, .as here.2.2⟩)
  exact matched.reordered rfl rfl

theorem namesRequired {xs ys : List Node}
    (names : List.Forall₂ (SameKey parts parts') xs ys) :
    Requires parts parts' (.list xs) (.list ys) := by
  cases names with
  | nil => exact .nothing rfl rfl
  | cons here later =>
    have names := List.Forall₂.cons here later
    have turned : List.Forall₂ (fun y x => SameKey parts parts' x y) _ _ := names.flip
    exact .listed rfl rfl rfl rfl (fun x member => partner turned member)
      fun y member => partner names member

theorem queryRequired {ps qs : List Parameter}
    (query : List.Forall₂ (SameParameter parts parts') ps qs) :
    List.Forall₂ (SameKey parts parts') ((ps.filter (·.required)).map (·.name))
      ((qs.filter (·.required)).map (·.name)) := by
  have filtered : List.Forall₂ (SameParameter parts parts') (ps.filter (·.required))
      (qs.filter (·.required)) :=
    List.rel_filter (fun x y alike => Bool.eq_iff_iff.mp alike.required) query
  exact List.rel_map (fun x y alike => alike.name.key) filtered

theorem querySame {ps qs : List Parameter} (query : List.Forall₂ (SameParameter parts parts') ps qs)
    {es es' : Entries} (each : AlikeTables (Reordered parts parts' .schema) es es')
    (apart : Apart (es.map (·.1))) :
    Reordered parts parts' .schema
      (Node.object [("type", .str "object"), ("properties", .map es),
        ("required", .list ((ps.filter (·.required)).map (·.name)))])
      (Node.object [("type", .str "object"), ("properties", .map es'),
        ("required", .list ((qs.filter (·.required)).map (·.name)))]) := by
  refine objectReordered _ rfl rfl (by simp) (.inl rfl) ?_
  refine .cons ⟨rfl, .plain (unchangedUsable rfl)⟩ ?_
  refine .cons ⟨rfl, .as (propertiesTable each apart)⟩ ?_
  exact .cons ⟨rfl, .names (namesRequired (queryRequired query))⟩ .nil

theorem locatedTogether {o p : Operation} (same : SameOperation parts parts' o p) (place : String) :
    List.Forall₂ (SameParameter parts parts') (o.located parts place) (p.located parts' place) := by
  refine List.rel_filter (fun x y alike => ?_) same.parameters
  have there : Parameter.isIn parts place x = Parameter.isIn parts' place y :=
    textEqual alike.location place
  exact Bool.eq_iff_iff.mp there

theorem nameKeyAgree {name name' : Node} (same : SameKey parts parts' name name') :
    Agree (fun k k' => k = k' ∧ k.hashable = true) (Operation.nameKey parts name)
      (Operation.nameKey parts' name') := by
  unfold Operation.nameKey
  dsimp only
  rw [← same.usable]
  split
  · rename_i usable
    exact .read ⟨same.key usable, usable⟩
  · exact .refused _

theorem queryAgree {o p : Operation} (same : SameOperation parts parts' o p) :
    Agree (Option.Rel (Reordered parts parts' .schema)) (o.querySchema parts)
      (p.querySchema parts') := by
  have located := locatedTogether same "query"
  unfold Operation.querySchema
  generalize o.located parts "query" = ps at located
  generalize p.located parts' "query" = qs at located
  cases located with
  | nil => exact .read .none
  | @cons x y ps qs here later =>
    have query := List.Forall₂.cons here later
    have pairs : Agree (AlikeTables (Reordered parts parts' .schema))
        (readEach (fun p => do return (← Operation.nameKey parts p.name, p.schema)) (x :: ps))
        (readEach (fun p => do return (← Operation.nameKey parts' p.name, p.schema)) (y :: qs)) :=
      readEachAgree (fun p q alike => (nameKeyAgree alike.name.key).bind
        fun k k' named => .read ⟨named.1, named.2, alike.schema⟩) query
    refine pairs.bind fun es es' each => .read (.some ?_)
    obtain ⟨table, apart⟩ := pairsAlike each .nil ⟨nofun, .nil⟩
    exact querySame query table apart

end ClientGen.Reordering
