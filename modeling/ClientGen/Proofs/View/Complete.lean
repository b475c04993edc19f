import ClientGen.Proofs.View.Arguments
import ClientGen.Proofs.View.Passages

/-! What the view of a resource is sure to hold: names of fields are texts, an operation has a text
to be headed by, and in Python every field has what follows its type. So all that can keep a view
from being printed is a number in what the document says about its parts. -/
namespace ClientGen
open Template (Wording)

structure FieldView.Complete (language : Language) (f : FieldView) : Prop where
  name : ∃ s, f.name = .str s
  default : language = .python → ∃ d, f.default = some d

def OperationView.heading (o : OperationView) : Node := if o.summary.holds then o.summary else o.id

structure OperationView.Complete (language : Language) (o : OperationView) : Prop where
  heading : ∃ s, o.heading = .str s
  parameters : language = .python → ∀ p ∈ o.parameters, ∃ s, p.name = .str s

structure ResourceView.Complete (language : Language) (v : ResourceView) : Prop where
  fields : ∀ t ∈ v.types, ∀ f ∈ t.fields, f.Complete language
  operations : ∀ o ∈ v.operations, o.Complete language

namespace View

variable {parts : Parts} {language : Language} {owner : Node}

theorem fieldComplete {f : Field String} {v : FieldView} (ok : field language f = .ok v) :
    v.Complete language := by
  unfold field at ok
  split at ok
  · rename_i s named
    cases ok
    cases language with
    | typescript =>
      have name : ∃ t, (typescriptField f s.toList).name = .str t := by
        unfold typescriptField
        split
        · exact ⟨s, named⟩
        · exact ⟨_, rfl⟩
      exact ⟨name, nofun⟩
    | python => exact ⟨⟨_, rfl⟩, fun _ => ⟨_, rfl⟩⟩
  · contradiction

theorem fieldsComplete {fs : List (Field String)} {vs : List FieldView}
    (ok : fields language fs = .ok vs) : ∀ v ∈ vs, v.Complete language := by
  induction fs generalizing vs with
  | nil =>
    cases ok
    exact fun _ => nofun
  | cons f rest ih =>
    obtain ⟨v, first, ok⟩ := Fault.bindOk ok
    obtain ⟨vs', others, ok⟩ := Fault.bindOk ok
    cases ok
    exact List.forall_mem_cons.mpr ⟨fieldComplete first, ih others⟩

theorem typesComplete {ds : List Spelled} {ts : List TypeView} (ok : types language ds = .ok ts) :
    ∀ t ∈ ts, ∀ f ∈ t.fields, f.Complete language := by
  induction ds generalizing ts with
  | nil =>
    cases ok
    exact fun _ => nofun
  | cons d rest ih =>
    obtain ⟨t, first, ok⟩ := Fault.bindOk ok
    obtain ⟨ts', others, ok⟩ := Fault.bindOk ok
    cases ok
    obtain ⟨fs, shown, first⟩ := Fault.bindOk first
    cases first
    refine List.forall_mem_cons.mpr ⟨fun f member => fieldsComplete shown f ?_, ih others⟩
    cases language with
    | typescript => exact member
    | python =>
      have sorted : f ∈ requiredFirst fs := member
      rw [requiredFirst, sortedByParts] at sorted
      rcases List.mem_append.mp sorted with member | member <;> exact (List.mem_filter.mp member).1

theorem headingText {summary id : Node} {name method : String}
    (named : operationName summary = .ok name) (called : methodName summary id = .ok method) :
    ∃ s, (if summary.holds then summary else id) = .str s := by
  unfold operationName at named
  cases held : summary.holds with
  | true =>
    rw [held, if_pos rfl] at named
    split at named
    · exact ⟨_, rfl⟩
    · contradiction
  | false =>
    unfold methodName at called
    rw [held] at called
    cases id with
    | str s => exact ⟨s, rfl⟩
    | _ => cases called

theorem operationComplete {o : Operation} {v : OperationView}
    (ok : (operation parts language owner o).result = .ok v) : v.Complete language := by
  obtain ⟨_, _, _, _, _, run⟩ := operationRuns ok
  refine ⟨?_, ?_⟩
  · rw [OperationView.heading, run.heading.1, run.heading.2]
    exact headingText run.named run.method
  · rintro rfl p member
    obtain ⟨s, named, _⟩ := argumentsNamed ok p member
    exact ⟨s, named⟩

theorem operationsComplete {os : List Operation} {vs : List OperationView}
    (ok : (operations parts language owner os).result = .ok vs) :
    ∀ v ∈ vs, v.Complete language := by
  induction os generalizing vs with
  | nil =>
    cases ok
    exact fun _ => nofun
  | cons o rest ih =>
    obtain ⟨v, here, ok, _⟩ := Trail.bindEnds ok
    obtain ⟨vs', others, ok, _⟩ := Trail.bindEnds ok
    cases ok
    exact List.forall_mem_cons.mpr ⟨operationComplete here, ih others⟩

theorem renamedMember {os : List OperationView} {v : OperationView}
    (member : v ∈ withUniqueNames os) : ∃ o ∈ os, ∃ name, v = { o with methodName := name } := by
  unfold withUniqueNames at member
  rw [← List.map_uncurry_zip_eq_zipWith] at member
  obtain ⟨⟨name, o⟩, pair, rfl⟩ := List.mem_map.mp member
  exact ⟨o, (List.of_mem_zip pair).2, name, rfl⟩

variable {strict : Bool} {r : Resource} {className : String} {v : ResourceView}

theorem resourceComplete
    (ok : (resource parts language strict r className).result = .ok v) : v.Complete language := by
  have run := resourceRuns ok
  obtain ⟨os, compiled, named⟩ := run.operations
  obtain ⟨_, _, compiled, _⟩ := Trail.bindEnds compiled
  refine ⟨typesComplete run.types, fun o member => ?_⟩
  rw [named] at member
  obtain ⟨own, inside, name, rfl⟩ := renamedMember member
  have complete := operationsComplete compiled own inside
  exact ⟨complete.heading, complete.parameters⟩

end View

theorem Node.nothingWritable {n : Node} (nothing : n.holds = false) : n.writable = true := by
  cases n with
  | int i =>
    have zero : i = 0 := by simpa [Node.holds] using nothing
    subst zero
    decide +kernel
  | set items | list items =>
    cases items with
    | nil => rfl
    | cons _ _ => cases nothing
  | map entries =>
    cases entries with
    | nil => rfl
    | cons _ _ => cases nothing
  | pair a b => cases nothing
  | _ => rfl

def OperationView.documented (language : Language) (o : OperationView) : List Node :=
  o.description :: match language with
    | .typescript => o.parameters.flatMap fun p => [p.name, p.description]
    | .python => []

def ResourceView.documented (language : Language) (v : ResourceView) : List Node :=
  v.types.flatMap (fun t => t.fields.map (·.comment)) ++
    v.operations.flatMap (·.documented language)

namespace Passage

variable {language : Language}

theorem ownWritable {c : Prop} [Decidable c] (s : String) :
    (if c then [Wording.own s] else []).all Wording.writable = true := by split <;> rfl

theorem linesWritable {c : Prop} [Decidable c] (ls : List String) :
    (if c then [Wording.lines ls] else []).all Wording.writable = true := by split <;> rfl

theorem orWritable (n : Node) : (if n.holds then n else .str "").writable = n.writable := by
  cases held : n.holds with
  | true => rfl
  | false => exact (Node.nothingWritable held).symm

attribute [local simp] wordings bodyWordings List.all_flatMap Node.nothingWritable ownWritable
  linesWritable orWritable

def Writable (ps : List Passage) : Prop := (ps.flatMap wordings).all Wording.writable = true

@[simp] theorem writableNil : Writable [] := rfl

@[simp] theorem writableAppend (ps qs : List Passage) :
    Writable (ps ++ qs) ↔ Writable ps ∧ Writable qs := by simp [Writable]

@[simp] theorem writableCons (p : Passage) (ps : List Passage) :
    Writable (p :: ps) ↔ p.wordings.all Wording.writable = true ∧ Writable ps := by
  simp [Writable]

@[simp] theorem writableEach {α : Type} (as : List α) (f : α → List Passage) :
    Writable (as.flatMap f) ↔ ∀ a ∈ as, Writable (f a) := by simp [Writable]

theorem fieldWritable {f : FieldView} (complete : f.Complete language) :
    Writable (f.passages language) ↔ f.comment.writable = true := by
  obtain ⟨s, named⟩ := complete.name
  unfold Writable
  cases language <;> unfold FieldView.passages FieldView.remark <;>
    cases held : f.comment.holds <;> simp [named, held]

theorem typeWritable {t : TypeView} (complete : ∀ f ∈ t.fields, f.Complete language) :
    Writable (t.passages language) ↔ ∀ f ∈ t.fields, f.comment.writable = true := by
  have fields : (∀ f ∈ t.fields, Writable (f.passages language)) ↔
      ∀ f ∈ t.fields, f.comment.writable = true :=
    forall₂_congr fun f member => fieldWritable (complete f member)
  rw [← fields]
  cases language <;> simp [TypeView.passages, Writable]

theorem operationWritable {o : OperationView} (complete : o.Complete language) (first : Bool) :
    Writable (o.passages language first) ↔ ∀ n ∈ o.documented language, n.writable = true := by
  obtain ⟨s, headed⟩ := complete.heading
  unfold OperationView.heading at headed
  unfold Writable OperationView.passages OperationView.remark OperationView.documented
  cases language with
  | typescript =>
    cases held : o.description.holds <;>
      simp [held, ParameterView.remarks, ParameterView.declared, quotedWording] <;> grind
  | python =>
    have named (p : ParameterView) (member : p ∈ o.parameters) : p.name.writable = true := by
      obtain ⟨s, named⟩ := complete.parameters rfl p member
      rw [named]
      rfl
    cases held : o.description.holds <;>
      simp [held, headed, ParameterView.declared, quotedWording] <;> grind

theorem resourceWritable {v : ResourceView} (complete : v.Complete language)
    (titled : ∃ s, v.title = .str s) :
    Writable (v.passages language) ↔ ∀ n ∈ v.documented language, n.writable = true := by
  obtain ⟨title, titled⟩ := titled
  have types : (∀ t ∈ v.types, Writable (t.passages language)) ↔
      ∀ t ∈ v.types, ∀ f ∈ t.fields, f.comment.writable = true :=
    forall₂_congr fun t member => typeWritable (complete.fields t member)
  have operations : Writable (operationPassages language v.operations) ↔
      ∀ o ∈ v.operations, ∀ n ∈ o.documented language, n.writable = true := by
    have here := List.zipIdx_map_fst 0 v.operations
    rw [operationPassages, writableEach, ← here, List.forall_mem_map, here]
    exact forall₂_congr fun e member =>
      operationWritable (complete.operations e.1 (List.fst_mem_of_mem_zipIdx member)) _
  have all : (∀ n ∈ v.documented language, n.writable = true) ↔
      (∀ t ∈ v.types, ∀ f ∈ t.fields, f.comment.writable = true) ∧
        ∀ o ∈ v.operations, ∀ n ∈ o.documented language, n.writable = true := by
    simp only [ResourceView.documented, List.forall_mem_append, List.forall_mem_flatMap,
      List.forall_mem_map]
  rw [all, ← types, ← operations]
  cases language <;> simp [ResourceView.passages, titled]

end Passage

namespace ResourceView

variable {language : Language} {v : ResourceView}

theorem rendered (complete : v.Complete language) (titled : ∃ s, v.title = .str s)
    (can : ∀ n ∈ v.documented language, n.writable = true) :
    Template.render (Template.resourceTemplate language) v.scope =
      .ok (String.ofList ((v.passages language).flatMap Passage.text)) := by
  have writable := (Passage.resourceWritable complete titled).mpr can
  unfold Passage.Writable at writable
  rw [renders language v fun python t t' f f' => (complete.fields t t' f f').default python,
    Template.printed, if_pos writable, List.flatMap_assoc]
  rfl

theorem notRendered (complete : v.Complete language) (titled : ∃ s, v.title = .str s) {n : Node}
    (member : n ∈ v.documented language) (long : n.writable = false) :
    Template.render (Template.resourceTemplate language) v.scope = .error .longInteger := by
  have unwritable : ¬Passage.Writable (v.passages language) := fun writable => by
    simp [(Passage.resourceWritable complete titled).mp writable n member] at long
  unfold Passage.Writable at unwritable
  rw [renders language v fun python t t' f f' => (complete.fields t t' f f').default python,
    Template.printed, if_neg unwritable]
  rfl

end ResourceView

def View.pet (said : Node) : Resource :=
  let schema := Node.object [("type", .str "object"), ("properties", Node.object [
    ("id", Node.object [("type", .str "string"), ("description", said)])])]
  ⟨.str "Pet", schema, [{
    id := .str "getPet", path := "/pets/{id}", method := "get", summary := .null,
    description := said, tags := [], parameters := [], request := none,
    responses := [⟨"default", ⟨[⟨.str "application/json", schema⟩]⟩, .null⟩] }]⟩

end ClientGen
