import ClientGen.Compile
import Mathlib.Data.List.Forall2

/-! What a compilation that ends well consists of. It makes a call for the items of every array and
for every property of a record; each of them ends well too, and what a call hands out the whole
hands out. The fuel does not matter: a call that ends well ends the same with more of it. -/
namespace ClientGen

theorem Parts.refuseReferenceSame {parts : Parts} {n m : Node}
    (ok : parts.refuseReference n = .ok m) : m = n := by
  unfold Parts.refuseReference at ok
  split at ok
  · split at ok
    · contradiction
    · exact (Except.ok.inj ok).symm
  · exact (Except.ok.inj ok).symm

namespace Compile

variable {parts : Parts} {owner : Node}

structure FieldOf (parts : Parts) (Yields : List Node → Node → TypeRef → Prop) (chain : List Node)
    (required : List Node) (property : Node × Node) (f : Field TypeRef) : Prop where
  name : f.name = property.1
  type : Yields (chain ++ [property.1]) property.2 f.type
  isOptional : f.isOptional = !required.any fun k => property.1.same k
  comment : ∃ text, parts.field property.2 "description" = .ok text ∧ f.comment = parts.close text
  readonly : f.readonly = true

theorem FieldOf.mono {Yields Yields' : List Node → Node → TypeRef → Prop} {chain required property f}
    (weaker : ∀ c s t, Yields c s t → Yields' c s t)
    (field : FieldOf parts Yields chain required property f) :
    FieldOf parts Yields' chain required property f :=
  ⟨field.name, weaker _ _ _ field.type, field.isOptional, field.comment, field.readonly⟩

section Fields

variable {compile : List Node → Node → Compiled TypeRef} {chain required : List Node}

abbrev Ends (compile : List Node → Node → Compiled TypeRef) (c : List Node) (s : Node)
    (t : TypeRef) : Prop :=
  (compile c s).result = .ok t

theorem fieldsCons {name schema : Node} {rest : List (Node × Node)} {fs : List (Field TypeRef)}
    (ok : (fields parts compile chain required ((name, schema) :: rest)).result = .ok fs) :
    ∃ f fs', fs = f :: fs' ∧ FieldOf parts (Ends compile) chain required (name, schema) f ∧
      (fields parts compile chain required rest).result = .ok fs' ∧
      (fields parts compile chain required ((name, schema) :: rest)).given =
        (compile (chain ++ [name]) schema).given ++
          (fields parts compile chain required rest).given := by
  rw [fields] at ok ⊢
  obtain ⟨schema', refused, ok, given⟩ := Trail.bindEnds ok
  rw [given]
  cases Parts.refuseReferenceSame refused
  obtain ⟨type, compiled, ok, given⟩ := Trail.bindEnds ok
  rw [given]
  obtain ⟨comment, described, ok, given⟩ := Trail.bindEnds ok
  rw [given]
  obtain ⟨fs', others, ok, given⟩ := Trail.bindEnds ok
  rw [given]
  cases ok
  exact ⟨_, fs', rfl, ⟨rfl, compiled, rfl, ⟨comment, described, rfl⟩, rfl⟩, others, by simp⟩

theorem fieldsEnd {properties : List (Node × Node)} {fs : List (Field TypeRef)}
    (ok : (fields parts compile chain required properties).result = .ok fs) :
    List.Forall₂ (FieldOf parts (Ends compile) chain required) properties fs := by
  induction properties generalizing fs with
  | nil =>
    cases ok
    exact .nil
  | cons property rest ih =>
    obtain ⟨f, fs', rfl, field, others, _⟩ := fieldsCons ok
    exact .cons field (ih others)

theorem fieldOfMember {properties : List (Node × Node)} {fs : List (Field TypeRef)}
    (ok : (fields parts compile chain required properties).result = .ok fs) {p : Node × Node}
    (member : p ∈ properties) :
    ∃ f ∈ fs, FieldOf parts (Ends compile) chain required p f := by
  induction properties generalizing fs with
  | nil => cases member
  | cons property rest ih =>
    obtain ⟨f, fs', rfl, field, others, _⟩ := fieldsCons ok
    rcases List.mem_cons.mp member with rfl | inside
    · exact ⟨f, List.mem_cons_self, field⟩
    · obtain ⟨g, found, field'⟩ := ih others inside
      exact ⟨g, List.mem_cons_of_mem _ found, field'⟩

theorem propertyOfField {properties : List (Node × Node)} {fs : List (Field TypeRef)}
    (ok : (fields parts compile chain required properties).result = .ok fs) {f : Field TypeRef}
    (member : f ∈ fs) : ∃ p ∈ properties, FieldOf parts (Ends compile) chain required p f := by
  induction properties generalizing fs with
  | nil =>
    cases ok
    cases member
  | cons property rest ih =>
    obtain ⟨g, fs', rfl, field, others, _⟩ := fieldsCons ok
    rcases List.mem_cons.mp member with rfl | inside
    · exact ⟨property, List.mem_cons_self, field⟩
    · obtain ⟨p, found, field'⟩ := ih others inside
      exact ⟨p, List.mem_cons_of_mem _ found, field'⟩

theorem fieldsGiven {properties : List (Node × Node)} {fs : List (Field TypeRef)}
    (ok : (fields parts compile chain required properties).result = .ok fs)
    (d : Definition TypeRef) :
    d ∈ (fields parts compile chain required properties).given ↔
      ∃ p ∈ properties, d ∈ (compile (chain ++ [p.1]) p.2).given := by
  induction properties generalizing fs with
  | nil => simp [fields]
  | cons property rest ih =>
    obtain ⟨f, fs', rfl, field, others, given⟩ := fieldsCons ok
    simp [given, ih others]

theorem fieldsHanded {properties : List (Node × Node)} {d : Definition TypeRef}
    (handed : d ∈ (fields parts compile chain required properties).given) :
    ∃ p ∈ properties, d ∈ (compile (chain ++ [p.1]) p.2).given := by
  induction properties with
  | nil => cases handed
  | cons property rest ih =>
    obtain ⟨name, schema⟩ := property
    rw [fields] at handed
    obtain ⟨_, refused, handed⟩ := Trail.liftMember.mp handed
    rcases Trail.givenMember.mp handed with here | ⟨_, _, handed⟩
    · cases Parts.refuseReferenceSame refused
      exact ⟨_, List.mem_cons_self, here⟩
    · obtain ⟨_, _, later⟩ := Trail.liftMember.mp handed
      obtain ⟨p, member, inner⟩ := ih (Trail.pureMember.mp later)
      exact ⟨p, List.mem_cons_of_mem _ member, inner⟩

theorem fieldsSame {compile' : List Node → Node → Compiled TypeRef}
    (agree : ∀ c s t, Ends compile c s t → compile' c s = compile c s)
    {properties : List (Node × Node)} {fs : List (Field TypeRef)}
    (ok : (fields parts compile chain required properties).result = .ok fs) :
    fields parts compile' chain required properties =
      fields parts compile chain required properties := by
  induction properties generalizing fs with
  | nil => rfl
  | cons property rest ih =>
    obtain ⟨name, schema⟩ := property
    obtain ⟨f, fs', _, field, others, _⟩ := fieldsCons ok
    have here := agree _ _ _ field.type
    rw [fields, fields]
    cases refused : parts.refuseReference schema with
    | error fault => rfl
    | ok schema' =>
      cases Parts.refuseReferenceSame refused
      simp only [Trail.liftOkBind, here, ih others]

end Fields

structure Recorded (parts : Parts) (compile : List Node → Node → Compiled TypeRef)
    (chain : List Node) (entries : Entries) (t : TypeRef) (given : List (Definition TypeRef)) where
  title : Option (List Char)
  letters : List Char
  required : List Node
  properties : Entries
  fs : List (Field TypeRef)
  titled : titleName parts entries = .ok title
  named : ownName parts title chain = .ok letters
  requires : requiredKeys parts entries = .ok required
  holds : Compile.properties parts entries = .ok properties
  fields : (fields parts compile (innerChain title chain) required properties).result = .ok fs
  type : t = .named (formatName letters)
  given : given = (Compile.fields parts compile (innerChain title chain) required properties).given ++
    [⟨formatName letters, fs⟩]

theorem Recorded.last {compile : List Node → Node → Compiled TypeRef} {chain : List Node}
    {entries : Entries} {t : TypeRef} {given : List (Definition TypeRef)}
    (run : Recorded parts compile chain entries t given) :
    ⟨formatName run.letters, run.fs⟩ ∈ given :=
  (congrArg _ run.given).mpr (List.mem_append_right _ List.mem_cons_self)

theorem recordEnds {compile : List Node → Node → Compiled TypeRef} {chain : List Node}
    {entries : Entries} {t : TypeRef} (own : isForeign parts owner entries = false)
    (ok : (record parts compile owner chain entries).result = .ok t) :
    Nonempty (Recorded parts compile chain entries t
      (record parts compile owner chain entries).given) := by
  unfold record at ok ⊢
  simp only [own, Bool.false_eq_true, ↓reduceIte] at ok ⊢
  obtain ⟨title, titled, ok, given⟩ := Trail.bindEnds ok
  rw [given]
  obtain ⟨letters, named, ok, given⟩ := Trail.bindEnds ok
  rw [given]
  obtain ⟨required, requires, ok, given⟩ := Trail.bindEnds ok
  rw [given]
  obtain ⟨properties, holds, ok, given⟩ := Trail.bindEnds ok
  rw [given]
  obtain ⟨fs, fields, ok, given⟩ := Trail.bindEnds ok
  rw [given]
  cases ok
  exact ⟨⟨title, letters, required, properties, fs, titled, named, requires, holds, fields, rfl,
    rfl⟩⟩

theorem recordFields {compile : List Node → Node → Compiled TypeRef} {chain : List Node}
    {entries : Entries} (own : isForeign parts owner entries = false) {title : Option (List Char)}
    {letters : List Char} {required : List Node} {properties : Entries}
    (titled : titleName parts entries = .ok title)
    (named : ownName parts title chain = .ok letters)
    (requires : requiredKeys parts entries = .ok required)
    (holds : Compile.properties parts entries = .ok properties) :
    record parts compile owner chain entries =
      fields parts compile (innerChain title chain) required properties >>= fun fs =>
        ⟨[⟨formatName letters, fs⟩], .ok (.named (formatName letters))⟩ := by
  simp only [record, own, Bool.false_eq_true, ↓reduceIte, titled, named, requires, holds,
    Trail.liftOkBind]
  rfl

theorem recordForeign {compile : List Node → Node → Compiled TypeRef} {chain : List Node}
    {entries : Entries} (foreign : isForeign parts owner entries = true) :
    record parts compile owner chain entries = pure .imported := by
  unfold record
  simp only [foreign, ↓reduceIte]

theorem recordSame {compile compile' : List Node → Node → Compiled TypeRef} {chain : List Node}
    {entries : Entries} {t : TypeRef}
    (agree : ∀ c s t, Ends compile c s t → compile' c s = compile c s)
    (ok : (record parts compile owner chain entries).result = .ok t) :
    record parts compile' owner chain entries = record parts compile owner chain entries := by
  cases own : isForeign parts owner entries with
  | true => rw [recordForeign own, recordForeign own]
  | false =>
    obtain ⟨run⟩ := recordEnds own ok
    unfold record
    simp only [own, Bool.false_eq_true, ↓reduceIte, run.titled, run.named, run.requires, run.holds,
      Trail.liftOkBind]
    rw [fieldsSame agree run.fields]

inductive Ended (parts : Parts) (owner : Node) (fuel : Nat) (chain : List Node) (schema : Node)
    (t : TypeRef) (given : List (Definition TypeRef)) : Prop
  | array {entries item} (shape : parts.shape schema = .ok .array)
      (held : parts.entries schema = .ok entries)
      (inner : Ends (compileAt parts owner fuel) chain (itemSchema parts entries) item)
      (type : t = .array item)
      (given : given = (compileAt parts owner fuel chain (itemSchema parts entries)).given)
  | object {entries} (shape : parts.shape schema = .ok .object)
      (held : parts.entries schema = .ok entries)
      (record : (record parts (compileAt parts owner fuel) owner chain entries).result = .ok t)
      (given : given = (Compile.record parts (compileAt parts owner fuel) owner chain entries).given)
  | free (shape : parts.shape schema = .ok .union ∨ parts.shape schema = .ok .any)
      (type : t = .unknown) (given : given = [])
  | primitive {kind} (shape : parts.shape schema = .ok (.primitive kind))
      (type : primitive parts kind = .ok t) (given : given = [])

theorem compileAtEnds {fuel : Nat} {chain : List Node} {schema : Node} {t : TypeRef}
    (ok : (compileAt parts owner fuel chain schema).result = .ok t) :
    ∃ less, fuel = less + 1 ∧
      Ended parts owner less chain schema t (compileAt parts owner fuel chain schema).given := by
  cases fuel with
  | zero => simp [compileAt] at ok
  | succ fuel =>
    refine ⟨fuel, rfl, ?_⟩
    unfold compileAt at ok ⊢
    obtain ⟨shape, shaped, ok, given⟩ := Trail.bindEnds ok
    rw [given]
    obtain ⟨entries, held, ok, given⟩ := Trail.bindEnds ok
    rw [given]
    cases shape with
    | array =>
      simp only at ok ⊢
      obtain ⟨items, refused, ok, given⟩ := Trail.bindEnds ok
      rw [given]
      cases Parts.refuseReferenceSame refused
      obtain ⟨item, inner, ok, given⟩ := Trail.bindEnds ok
      rw [given]
      cases ok
      exact .array shaped held inner rfl (by simp)
    | object => exact .object shaped held ok (by simp)
    | union =>
      cases ok
      exact .free (.inl shaped) rfl rfl
    | any =>
      cases ok
      exact .free (.inr shaped) rfl rfl
    | primitive kind => exact .primitive shaped ok rfl

theorem endedRecord {fuel : Nat} {chain : List Node} {schema : Node} {t : TypeRef}
    {given : List (Definition TypeRef)} {entries : Entries}
    (shape : parts.shape schema = .ok .object) (held : parts.entries schema = .ok entries)
    (ended : Ended parts owner fuel chain schema t given) :
    (record parts (compileAt parts owner fuel) owner chain entries).result = .ok t ∧
      given = (record parts (compileAt parts owner fuel) owner chain entries).given := by
  cases ended with
  | object _ held' record given =>
    cases held.symm.trans held'
    exact ⟨record, given⟩
  | array shape' => cases shape.symm.trans shape'
  | free shape' => rcases shape' with shape' | shape' <;> cases shape.symm.trans shape'
  | primitive shape' => cases shape.symm.trans shape'

theorem compileAtMore {fuel : Nat} {chain : List Node} {schema : Node} {t : TypeRef}
    (ok : (compileAt parts owner fuel chain schema).result = .ok t) :
    compileAt parts owner (fuel + 1) chain schema = compileAt parts owner fuel chain schema := by
  induction fuel generalizing chain schema t with
  | zero => simp [compileAt] at ok
  | succ fuel ih =>
    have agree c s t (ends : Ends (compileAt parts owner fuel) c s t) := ih ends
    obtain ⟨_, less, ended⟩ := compileAtEnds ok
    cases less
    cases ended with
    | array shape held inner =>
      rw [compileAt, compileAt, shape, held]
      simp only [Trail.liftOkBind]
      cases refused : parts.refuseReference (itemSchema parts _) with
      | error fault => rfl
      | ok schema' =>
        cases Parts.refuseReferenceSame refused
        simp only [Trail.liftOkBind, agree _ _ _ inner]
    | object shape held record =>
      rw [compileAt, compileAt, shape, held]
      exact recordSame agree record
    | free shape =>
      rw [compileAt, compileAt]
      rcases shape with shape | shape <;> rw [shape] <;> rfl
    | primitive shape =>
      rw [compileAt, compileAt, shape]
      rfl

theorem compileAtEnough {fuel more : Nat} {chain : List Node} {schema : Node} {t : TypeRef}
    (ok : (compileAt parts owner fuel chain schema).result = .ok t) (enough : fuel ≤ more) :
    compileAt parts owner more chain schema = compileAt parts owner fuel chain schema := by
  induction enough with
  | refl => rfl
  | step _ ih => rw [compileAtMore (by rw [ih]; exact ok), ih]

def Returns (parts : Parts) (owner : Node) (chain : List Node) (schema : Node) (t : TypeRef) :
    Prop :=
  ∃ fuel, Ends (compileAt parts owner fuel) chain schema t

theorem returnsUnique {chain : List Node} {schema : Node} {t u : TypeRef}
    (left : Returns parts owner chain schema t) (right : Returns parts owner chain schema u) :
    t = u := by
  obtain ⟨m, left⟩ := left
  obtain ⟨n, right⟩ := right
  have a := compileAtEnough left (Nat.le_max_left m n)
  have b := compileAtEnough right (Nat.le_max_right m n)
  exact Except.ok.inj (left.symm.trans ((congrArg Trail.result (a.symm.trans b)).trans right))

inductive Calls (parts : Parts) (owner : Node) (chain : List Node) (schema : Node) :
    List Node → Node → Prop
  | item {entries} (shape : parts.shape schema = .ok .array)
      (held : parts.entries schema = .ok entries) :
      Calls parts owner chain schema chain (itemSchema parts entries)
  | property {entries title properties name inner} (shape : parts.shape schema = .ok .object)
      (held : parts.entries schema = .ok entries)
      (own : isForeign parts owner entries = false)
      (titled : titleName parts entries = .ok title)
      (holds : Compile.properties parts entries = .ok properties)
      (member : (name, inner) ∈ properties) :
      Calls parts owner chain schema (innerChain title chain ++ [name]) inner

inductive Reaches (parts : Parts) (owner : Node) : List Node → Node → List Node → Node → Prop
  | here (chain schema) : Reaches parts owner chain schema chain schema
  | inside {chain schema chain' schema' chain'' schema''}
      (call : Calls parts owner chain schema chain' schema')
      (rest : Reaches parts owner chain' schema' chain'' schema'') :
      Reaches parts owner chain schema chain'' schema''

theorem callEnds {fuel : Nat} {chain chain' : List Node} {schema schema' : Node} {t : TypeRef}
    (call : Calls parts owner chain schema chain' schema')
    (ok : Ends (compileAt parts owner fuel) chain schema t) :
    ∃ less t', fuel = less + 1 ∧ Ends (compileAt parts owner less) chain' schema' t' ∧
      (compileAt parts owner less chain' schema').given ⊆
        (compileAt parts owner fuel chain schema).given := by
  obtain ⟨less, rfl, ended⟩ := compileAtEnds ok
  cases call with
  | item shape held =>
    cases ended with
    | array shape' held' inner type given =>
      cases held.symm.trans held'
      exact ⟨less, _, rfl, inner, by rw [given]; exact List.Subset.refl _⟩
    | object shape' => cases shape.symm.trans shape'
    | free shape' => rcases shape' with shape' | shape' <;> cases shape.symm.trans shape'
    | primitive shape' => cases shape.symm.trans shape'
  | property shape held own titled holds member =>
    obtain ⟨record, given⟩ := endedRecord shape held ended
    obtain ⟨run⟩ := recordEnds own record
    cases titled.symm.trans run.titled
    cases holds.symm.trans run.holds
    obtain ⟨f, _, field⟩ := fieldOfMember run.fields member
    refine ⟨less, f.type, rfl, field.type, fun d inner => ?_⟩
    rw [given, run.given]
    exact List.mem_append_left _ ((fieldsGiven run.fields d).mpr ⟨_, member, inner⟩)

theorem reachEnds {fuel : Nat} {chain chain' : List Node} {schema schema' : Node} {t : TypeRef}
    (reach : Reaches parts owner chain schema chain' schema')
    (ok : Ends (compileAt parts owner fuel) chain schema t) :
    ∃ less t', Ends (compileAt parts owner less) chain' schema' t' ∧
      (compileAt parts owner less chain' schema').given ⊆
        (compileAt parts owner fuel chain schema).given := by
  induction reach generalizing fuel t with
  | here chain schema => exact ⟨fuel, t, ok, List.Subset.refl _⟩
  | inside call rest ih =>
    obtain ⟨less, t', _, inner, handed⟩ := callEnds call ok
    obtain ⟨least, t'', last, handed'⟩ := ih inner
    exact ⟨least, t'', last, List.Subset.trans handed' handed⟩

theorem objectEnds {fuel : Nat} {chain : List Node} {schema : Node} {t : TypeRef}
    {entries : Entries} (shape : parts.shape schema = .ok .object)
    (held : parts.entries schema = .ok entries) (own : isForeign parts owner entries = false)
    (ok : Ends (compileAt parts owner fuel) chain schema t) :
    ∃ title required properties name fs, titleName parts entries = .ok title ∧
      requiredKeys parts entries = .ok required ∧
      Compile.properties parts entries = .ok properties ∧ t = .named name ∧
      List.Forall₂ (FieldOf parts (Returns parts owner) (innerChain title chain) required)
        properties fs ∧
      ⟨name, fs⟩ ∈ (compileAt parts owner fuel chain schema).given := by
  obtain ⟨less, rfl, ended⟩ := compileAtEnds ok
  obtain ⟨record, given⟩ := endedRecord shape held ended
  obtain ⟨run⟩ := recordEnds own record
  refine ⟨run.title, run.required, run.properties, formatName run.letters, run.fs, run.titled,
    run.requires, run.holds, run.type, ?_, ?_⟩
  · exact (fieldsEnd run.fields).imp
      fun _ _ field => field.mono fun c s t ends => ⟨less, ends⟩
  · rw [given]
    exact run.last

inductive HandedBy (parts : Parts) (owner : Node) (fuel : Nat) (chain : List Node) (schema : Node)
    (d : Definition TypeRef) : Prop
  | call {c s} (call : Calls parts owner chain schema c s)
      (inner : d ∈ (compileAt parts owner fuel c s).given)
  | own {entries} (shape : parts.shape schema = .ok .object)
      (held : parts.entries schema = .ok entries) (own : isForeign parts owner entries = false)
      (ends : (record parts (compileAt parts owner fuel) owner chain entries).result =
        .ok (.named d.name))
      (run : Recorded parts (compileAt parts owner fuel) chain entries (.named d.name)
        (record parts (compileAt parts owner fuel) owner chain entries).given)
      (last : d = ⟨formatName run.letters, run.fs⟩)

theorem handedBy {fuel : Nat} {chain : List Node} {schema : Node} {d : Definition TypeRef}
    (handed : d ∈ (compileAt parts owner (fuel + 1) chain schema).given) :
    HandedBy parts owner fuel chain schema d := by
  rw [compileAt] at handed
  obtain ⟨shape, shaped, handed⟩ := Trail.liftMember.mp handed
  obtain ⟨entries, held, handed⟩ := Trail.liftMember.mp handed
  cases shape with
  | array =>
    obtain ⟨items, refused, handed⟩ := Trail.liftMember.mp handed
    cases Parts.refuseReferenceSame refused
    exact .call (.item shaped held) (Trail.pureMember.mp handed)
  | object =>
    cases own : isForeign parts owner entries with
    | true => simp [recordForeign own] at handed
    | false =>
      simp only [record, own, Bool.false_eq_true, ↓reduceIte, Trail.liftMember] at handed
      obtain ⟨title, titled, letters, named, required, requires, properties, holds, handed⟩ :=
        handed
      rcases Trail.givenMember.mp handed with before | ⟨fs, ended, last⟩
      · obtain ⟨⟨name, inner⟩, member, handed⟩ := fieldsHanded before
        exact .call (.property shaped held own titled holds member) handed
      · cases List.mem_singleton.mp (Trail.pureMember.mp last)
        have run : record parts (compileAt parts owner fuel) owner chain entries = _ :=
          recordFields own titled named requires holds
        have ends := (congrArg Trail.result run).trans (Trail.bindResult _ ended)
        have given := (congrArg Trail.given run).trans (Trail.bindGiven _ ended)
        exact .own shaped held own ends
          ⟨title, letters, required, properties, fs, titled, named, requires, holds, ended, rfl,
            given⟩ rfl
  | union | any | primitive kind => simp at handed

end Compile
end ClientGen
