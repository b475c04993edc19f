import ClientGen.Proofs.Compile.Enough
import ClientGen.Proofs.Node.Closed

/-! Schemas of two documents that compile alike. A relation between schemas is a likeness when the
schemas that it relates are told alike in everything that is read of them, and the schemas inside are
related again. Then every compilation of the one does what that of the other does. -/
namespace ClientGen
namespace Compile
open Parts

inductive Agree {α β : Type} (r : α → β → Prop) : Except Fault α → Except Fault β → Prop
  | refused (fault) : Agree r (.error fault) (.error fault)
  | read {a b} (alike : r a b) : Agree r (.ok a) (.ok b)

namespace Agree

variable {α β γ δ : Type} {r : α → β → Prop} {left : Except Fault α} {right : Except Fault β}

theorem same {left right : Except Fault α} (agree : Agree Eq left right) : left = right := by
  cases agree with
  | refused => rfl
  | read alike => rw [alike]

theorem ofSame {r : α → α → Prop} (self : ∀ a, r a a) {left right : Except Fault α}
    (same : left = right) : Agree r left right := by
  subst same
  cases left with
  | error fault => exact .refused fault
  | ok a => exact .read (self a)

theorem imp {s : α → β → Prop} (agree : Agree r left right) (weaker : ∀ a b, r a b → s a b) :
    Agree s left right := by
  cases agree with
  | refused fault => exact .refused fault
  | read alike => exact .read (weaker _ _ alike)

theorem bind {s : γ → δ → Prop} {f : α → Except Fault γ} {g : β → Except Fault δ}
    (agree : Agree r left right) (next : ∀ a b, r a b → Agree s (f a) (g b)) :
    Agree s (left >>= f) (right >>= g) := by
  cases agree with
  | refused fault => exact .refused fault
  | read alike => exact next _ _ alike

end Agree

theorem bindAgree {ω α β γ : Type} {r : α → β → Prop} {left : Except Fault α}
    {right : Except Fault β} (agree : Agree r left right) {f : α → Trail ω γ} {g : β → Trail ω γ}
    (next : ∀ a b, r a b → f a = g b) :
    ((liftM left : Trail ω α) >>= f) = ((liftM right : Trail ω β) >>= g) := by
  cases agree with
  | refused => rfl
  | read alike => exact next _ _ alike

structure SameKey (parts parts' : Parts) (x y : Node) : Prop where
  usable : (parts.view x).hashable = (parts'.view y).hashable
  key : (parts.view x).hashable = true → parts.view x = parts'.view y

variable {parts parts' : Parts} {owner : Node} {R : Node → Node → Prop} {es es' : Entries}

section Reading

theorem nameTextRead (parts : Parts) (fault : Fault) (n : Node) : nameText parts fault n =
    match (parts.view n).text? with
    | some s => .ok s.toList
    | none => .error fault := by
  unfold nameText
  cases parts.view n <;> rfl

theorem primitiveRead (parts : Parts) (kind : Node) : primitive parts kind =
    match (parts.view kind).text? with
    | some "string" => .ok .text
    | some "number" => .ok .number
    | some "boolean" => .ok .boolean
    | _ => .error (unsupported parts kind) := by
  unfold primitive
  cases parts.view kind with
  | str s => simp only [Node.text?]; split <;> simp_all
  | _ => rfl

def isUnion (entries : Entries) : Bool := unionKeys.any fun k => Entries.has k entries

theorem shapeRead (parts : Parts) (entries : Entries) : Shape.ofEntries parts entries =
    let declared := (Entries.at? "type" entries).getD .null
    match (parts.view declared).text? with
    | some "array" => .array
    | some "object" => .object
    | _ => if (parts.view declared).isNull then
        if Entries.has "properties" entries then .object
        else if isUnion entries then .union else .any
      else if isUnion entries then .union else .primitive declared := by
  unfold Shape.ofEntries isUnion
  dsimp only
  cases parts.view ((Entries.at? "type" entries).getD .null) with
  | str s => simp only [Node.text?, Node.isNull]; split <;> simp_all
  | _ => rfl

theorem entriesOther {n : Node} (other : (parts.view n).isMap = false) :
    parts.entries n = .error .notAnObject ∧ parts.shape n = .error .notAnObject ∧
      parts.refuseReference n = .ok n ∧ ∀ key, parts.field n key = .error .notAnObject := by
  have never es (shown : parts.view n = .map es) : False := by simp [shown, Node.isMap] at other
  refine ⟨?_, shapeOther never, ?_, fun key => ?_⟩
  · unfold Parts.entries
    split
    · exact (never _ (by assumption)).elim
    · rfl
  · unfold refuseReference
    split
    · exact (never _ (by assumption)).elim
    · rfl
  · unfold Parts.field
    split
    · exact (never _ (by assumption)).elim
    · rfl

end Reading

theorem nameTextAlike {fault : Fault} {a b : Node} (equal : Equal parts parts' a b) :
    nameText parts fault a = nameText parts' fault b := by
  rw [nameTextRead, nameTextRead, equalText equal]

theorem unexpectedAlike {a b : Node} (equal : Equal parts parts' a b) :
    parts.unexpected a = parts'.unexpected b := by
  simp only [unexpected, equalHolds equal, plainText, show parts.close a = parts'.close b from equal]

theorem primitiveAlike {a b : Node} (equal : Equal parts parts' a b) :
    primitive parts a = primitive parts' b := by
  have same : unsupported parts a = unsupported parts' b := by
    simp only [unsupported, quotedText, show parts.close a = parts'.close b from equal]
  rw [primitiveRead, primitiveRead, equalText equal, same]

abbrev SameChain (parts parts' : Parts) (chain chain' : List Node) : Prop :=
  List.Forall₂ (fun m n => (parts.view m).text? = (parts'.view n).text?) chain chain'

theorem chainTextAlike {chain chain' : List Node} (chains : SameChain parts parts' chain chain') :
    chainText parts chain = chainText parts' chain' := by
  induction chains with
  | nil => rfl
  | cons here _ ih => rw [chainText, chainText, nameTextRead, nameTextRead, here, ih]

theorem chainUsable {chain : List Node} (usable : ∀ n ∈ chain, n.hashable = true) :
    SameChain parts parts' chain chain := by
  induction chain with
  | nil => exact .nil
  | cons n rest ih =>
    obtain ⟨here, later⟩ := List.forall_mem_cons.mp usable
    exact .cons (by rw [viewUsable parts here, viewUsable parts' here]) (ih later)

def plainKeys : List String := ["$ref", "type", "title", "description", originKey]

abbrev SameNames (ks ks' : List Node) : Prop := ∀ name : Node, name.hashable = true →
  (ks.any fun k => name.same k) = ks'.any fun k => name.same k

abbrev AlikeTables (R : Node → Node → Prop) (ps qs : Entries) : Prop :=
  List.Forall₂ (fun p q => p.1 = q.1 ∧ p.1.hashable = true ∧ R p.2 q.2) ps qs

structure AlikeEntries (parts parts' : Parts) (R : Node → Node → Prop) (es es' : Entries) : Prop where
  plain : ∀ key ∈ plainKeys, Equal parts parts' ((Entries.at? key es).getD .null)
    ((Entries.at? key es').getD .null)
  keys : ∀ key, Entries.has key es = Entries.has key es'
  required : Agree SameNames (requiredKeys parts es) (requiredKeys parts' es')
  items : Agree (fun x y => R x y ∨ x = .map [] ∧ y = .map [])
    (parts.refuseReference (itemSchema parts es)) (parts'.refuseReference (itemSchema parts' es'))
  properties : Agree (AlikeTables R) (properties parts es) (properties parts' es')

inductive AlikeBody (parts parts' : Parts) (owner : Node) (R : Node → Node → Prop) (a b : Node) :
    Prop
  | imported (left : ∀ fuel chain, compileAt parts owner (fuel + 1) chain a = pure .imported)
      (right : ∀ fuel chain, compileAt parts' owner (fuel + 1) chain b = pure .imported)
  | object {es es' : Entries} (left : parts.view a = .map es) (right : parts'.view b = .map es')
      (entries : AlikeEntries parts parts' R es es')
  | other (left : (parts.view a).isMap = false) (right : (parts'.view b).isMap = false)

structure Likeness (parts parts' : Parts) (owner : Node) (R : Node → Node → Prop) : Prop where
  accepted {a b} (alike : R a b) :
    Agree (fun x y => x = a ∧ y = b) (parts.refuseReference a) (parts'.refuseReference b)
  described {a b} (alike : R a b) : Agree (Equal parts parts') (parts.field a "description")
    (parts'.field b "description")
  body {a b} (alike : R a b) : AlikeBody parts parts' owner R a b

inductive AlikeShape (parts parts' : Parts) : Shape → Shape → Prop
  | same (shape) (other : ∀ kind, shape ≠ .primitive kind) : AlikeShape parts parts' shape shape
  | primitive {k k'} (equal : Equal parts parts' k k') :
      AlikeShape parts parts' (.primitive k) (.primitive k')

section Entries

variable (entries : AlikeEntries parts parts' R es es')
include entries

theorem shapeAlike : AlikeShape parts parts' (Shape.ofEntries parts es)
    (Shape.ofEntries parts' es') := by
  have equal := entries.plain "type" (by simp [plainKeys])
  have union : isUnion es = isUnion es' := by simp only [isUnion, entries.keys]
  rw [shapeRead, shapeRead]
  simp only [equalText equal, equalNull equal, entries.keys, union]
  split
  · exact .same _ (by simp)
  · exact .same _ (by simp)
  · split
    · exact .same _ (by split_ifs <;> simp)
    · split
      · exact .same _ (by simp)
      · exact .primitive equal

theorem titleAlike : titleName parts es = titleName parts' es' := by
  have equal := entries.plain "title" (by simp [plainKeys])
  simp only [titleName, equalHolds equal, nameTextAlike equal]

theorem foreignAlike (owned : owner.hashable = true) :
    isForeign parts owner es = isForeign parts' owner es' := by
  have equal := entries.plain originKey (by simp [plainKeys])
  simp only [isForeign, equalHolds equal, Parts.same, closeUsable _ owned]
  rw [show parts.close _ = parts'.close _ from equal]

end Entries

theorem compileEmpty (fuel : Nat) (chain chain' : List Node) :
    compileAt parts owner fuel chain (.map []) = compileAt parts' owner fuel chain' (.map []) := by
  have empty (parts : Parts) : parts.view (.map []) = .map [] := rfl
  cases fuel with
  | zero => rfl
  | succ fuel =>
    rw [compileAt, compileAt, shapeShown (empty parts), shapeShown (empty parts'),
      entriesShown (empty parts), entriesShown (empty parts')]
    simp [Entries.at?, Shape.ofEntries, Parts.view, Entries.has, unionKeys]

section Calls

variable (like : Likeness parts parts' owner R)
include like

theorem fieldsAlike {compile compile' : List Node → Node → Compiled TypeRef}
    {chain chain' required required' : List Node} (chains : SameChain parts parts' chain chain')
    (names : SameNames required required')
    (inner : ∀ c c' a b, SameChain parts parts' c c' → R a b → compile c a = compile' c' b)
    {ps qs : Entries} (each : AlikeTables R ps qs) :
    fields parts compile chain required ps = fields parts' compile' chain' required' qs := by
  induction each with
  | nil => rfl
  | @cons p q ps qs here _ ih =>
    obtain ⟨name, a⟩ := p
    obtain ⟨name', b⟩ := q
    obtain ⟨rfl, usable, alike⟩ := here
    have longer : SameChain parts parts' (chain ++ [name]) (chain' ++ [name]) :=
      List.rel_append chains (chainUsable (List.forall_mem_singleton.mpr usable))
    rw [fields, fields]
    refine bindAgree (like.accepted alike) ?_
    rintro _ _ ⟨rfl, rfl⟩
    rw [inner _ _ _ _ longer alike]
    refine Trail.bindCongr fun type _ => bindAgree (like.described alike) ?_
    intro text text' equal
    rw [ih, names name usable, show parts.close text = parts'.close text' from equal]

theorem recordAlike {compile compile' : List Node → Node → Compiled TypeRef}
    (owned : owner.hashable = true) {chain chain' : List Node}
    (chains : SameChain parts parts' chain chain')
    (inner : ∀ c c' a b, SameChain parts parts' c c' → R a b → compile c a = compile' c' b)
    (entries : AlikeEntries parts parts' R es es') :
    record parts compile owner chain es = record parts' compile' owner chain' es' := by
  have letters (title) : ownName parts title chain = ownName parts' title chain' := by
    cases title with
    | some _ => rfl
    | none => exact chainTextAlike chains
  have within (title) : SameChain parts parts' (innerChain title chain) (innerChain title chain') := by
    cases title with
    | some t => exact .cons rfl .nil
    | none => exact chains
  unfold record
  rw [foreignAlike entries owned, titleAlike entries]
  simp only [letters]
  split
  · rfl
  · refine Trail.bindCongr fun title _ => Trail.bindCongr fun name _ => ?_
    refine bindAgree entries.required fun required required' names => ?_
    refine bindAgree entries.properties fun ps qs each => ?_
    rw [fieldsAlike like (within title) names inner each]

theorem shapesAlike {a b : Node} (alike : R a b) (left : parts.view a = .map es)
    (right : parts'.view b = .map es') (entries : AlikeEntries parts parts' R es es') :
    Agree (AlikeShape parts parts') (parts.shape a) (parts'.shape b) := by
  rw [Parts.shape, Parts.shape]
  refine (like.accepted alike).bind ?_
  rintro _ _ ⟨rfl, rfl⟩
  rw [entriesShown left, entriesShown right]
  exact .read (shapeAlike entries)

theorem compileLike (owned : owner.hashable = true) (fuel : Nat) {chain chain' : List Node}
    (chains : SameChain parts parts' chain chain') {a b : Node} (alike : R a b) :
    compileAt parts owner fuel chain a = compileAt parts' owner fuel chain' b := by
  induction fuel generalizing chain chain' a b with
  | zero => rfl
  | succ fuel ih =>
    cases like.body alike with
    | imported left right => rw [left, right]
    | other left right =>
      rw [compileAt, compileAt, (entriesOther left).2.1, (entriesOther right).2.1,
        Trail.liftErrorBind, Trail.liftErrorBind]
    | object left right entries =>
      rw [compileAt, compileAt, entriesShown left, entriesShown right]
      refine bindAgree (shapesAlike like alike left right entries) fun shape shape' same => ?_
      simp only [Trail.liftOkBind]
      cases same with
      | primitive equal => exact congrArg liftM (primitiveAlike equal)
      | same _ other =>
        cases shape with
        | array =>
          refine bindAgree entries.items fun item item' inner => ?_
          rcases inner with inner | ⟨rfl, rfl⟩
          · rw [ih chains inner]
          · have same : compileAt parts owner fuel chain (.map []) =
                compileAt parts' owner fuel chain' (.map []) := compileEmpty fuel chain chain'
            rw [same]
        | object =>
          exact recordAlike like owned chains (fun c c' a b same alike => ih same alike) entries
        | union | any => dsimp only
        | primitive kind => exact absurd rfl (other kind)

end Calls

theorem resultsAlike {chain chain' : List Node} {a b : Node}
    (same : ∀ fuel, compileAt parts owner fuel chain a = compileAt parts' owner fuel chain' b) :
    (parts.compile owner chain a).result = (parts'.compile owner chain' b).result ∧
      ((parts.compile owner chain a).result ≠ .error .endless →
        parts.compile owner chain a = parts'.compile owner chain' b) := by
  have left (settles : (parts.compile owner chain a).Settles) :
      parts.compile owner chain a = parts'.compile owner chain' b := by
    have other := same (parts.depth a)
    exact other.trans (compileSettled (other ▸ settles)).symm
  have right (settles : (parts'.compile owner chain' b).Settles) :
      parts.compile owner chain a = parts'.compile owner chain' b := by
    have other := same (parts'.depth b)
    exact (compileSettled (other.symm ▸ settles)).trans other
  refine ⟨?_, left⟩
  by_cases settles : (parts.compile owner chain a).Settles
  · rw [left settles]
  · by_cases settles' : (parts'.compile owner chain' b).Settles
    · rw [right settles']
    · rw [Trail.Settles, not_not] at settles settles'
      rw [settles, settles']

end Compile
end ClientGen
