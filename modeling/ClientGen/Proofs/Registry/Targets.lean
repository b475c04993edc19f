import ClientGen.Proofs.Compile.Filling
import Mathlib.Data.List.Forall2

/-! Compiling for two languages at once. A sequence of calls fills a registry for each, which
outlives the calls that fail. The two look up the words for plain values in tables of their own and
spell the references on their way. In step, they end every call alike, list the same names, and
differ in nothing but how they spell the references. -/
namespace ClientGen
namespace Targets
open Compile Filling

structure Call where
  parts : Parts
  owner : Node
  chain : List Node
  schema : Node

def Call.into (c : Call) (d : Dialect) : Filling String :=
  compileInto c.parts d c.owner (c.parts.depth c.schema) c.chain c.schema

def runs (d : Dialect) (r : Registry) : List Call → List (Registry × Except Fault String)
  | [] => []
  | c :: rest =>
    let (ending, r, _) := (c.into d).on r []
    (r, ending) :: runs d r rest

section Alike

variable (d d' : Dialect)

inductive Spells : String → String → Prop
  | both (t : TypeRef) : Spells (d.spell t) (d'.spell t)

structure AlikeField (f g : Field String) : Prop where
  name : f.name = g.name
  type : Spells d d' f.type g.type
  isOptional : f.isOptional = g.isOptional
  comment : f.comment = g.comment
  readonly : f.readonly = g.readonly

structure AlikeDefinition (x y : Spelled) : Prop where
  name : x.name = y.name
  fields : List.Forall₂ (AlikeField d d') x.fields y.fields

structure AlikeRegistry (r r' : Registry) : Prop where
  lax : r.strict = false
  lax' : r'.strict = false
  types : List.Forall₂ (AlikeDefinition d d') r.types r'.types

inductive AlikeEnd {α β : Type} (R : α → β → Prop) : Except Fault α → Except Fault β → Prop
  | refused (fault : Fault) : AlikeEnd R (.error fault) (.error fault)
  | returned {a b} (both : R a b) : AlikeEnd R (.ok a) (.ok b)

structure AlikeStep (left right : Registry × Except Fault String) : Prop where
  names : left.1.names = right.1.names
  types : List.Forall₂ (AlikeDefinition d d') left.1.types right.1.types
  ending : AlikeEnd (Spells d d') left.2 right.2

def Together {α β : Type} (R : α → β → Prop) (f : Filling α) (g : Filling β) : Prop :=
  ∀ r r' told told', AlikeRegistry d d' r r' →
    AlikeRegistry d d' (f.on r told).2.1 (g.on r' told').2.1 ∧
      AlikeEnd R (f.on r told).1 (g.on r' told').1

end Alike

variable {d d' : Dialect} {α β γ δ : Type}

theorem togetherPure {R : α → β → Prop} {a : α} {b : β} (both : R a b) :
    Together d d' R (pure a) (pure b) :=
  fun _ _ _ _ alike => ⟨alike, .returned both⟩

theorem togetherBind {R : α → β → Prop} {S : γ → δ → Prop} {f : Filling α} {g : Filling β}
    {f' : α → Filling γ} {g' : β → Filling δ} (first : Together d d' R f g)
    (next : ∀ a b, R a b → Together d d' S (f' a) (g' b)) :
    Together d d' S (f >>= f') (g >>= g') := by
  intro r r' told told' alike
  obtain ⟨after, ending⟩ := first r r' told told' alike
  rw [onBind, onBind]
  rcases left : f.on r told with ⟨result, s, told₁⟩
  rcases right : g.on r' told' with ⟨result', s', told₁'⟩
  rw [left, right] at after ending
  cases ending with
  | refused fault => exact ⟨after, .refused fault⟩
  | returned both => exact next _ _ both s s' told₁ told₁' after

theorem togetherLift {R : α → β → Prop} {a : Except Fault α} {b : Except Fault β}
    (both : AlikeEnd R a b) : Together d d' R (liftM a : Filling α) (liftM b : Filling β) := by
  intro r r' told told' alike
  cases both with
  | refused fault => exact ⟨alike, .refused fault⟩
  | returned both => exact ⟨alike, .returned both⟩

theorem togetherRead (a : Except Fault α) {S : γ → δ → Prop} {f : α → Filling γ}
    {g : α → Filling δ} (next : ∀ a, Together d d' S (f a) (g a)) :
    Together d d' S ((liftM a : Filling α) >>= f) ((liftM a : Filling α) >>= g) := by
  refine togetherBind (R := Eq) (togetherLift ?_) ?_
  · cases a with
    | error fault => exact .refused fault
    | ok a => exact .returned rfl
  · rintro a _ rfl
    exact next a

theorem setTypeAlike {x y : Spelled} (alike : AlikeDefinition d d' x y) {xs ys : List Spelled}
    (types : List.Forall₂ (AlikeDefinition d d') xs ys) :
    List.Forall₂ (AlikeDefinition d d') (Registry.setType x xs) (Registry.setType y ys) := by
  induction types with
  | nil => exact .cons alike .nil
  | cons here rest ih =>
    simp only [Registry.setType, here.name, alike.name]
    split
    · exact .cons alike rest
    · exact .cons here ih

theorem togetherAdd {x y : Spelled} (both : AlikeDefinition d d' x y) :
    Together d d' (fun _ _ => True) (Filling.add x) (Filling.add y) := by
  intro r r' told told' alike
  obtain ⟨left, ok⟩ := Registry.addLax alike.lax x
  obtain ⟨right, ok'⟩ := Registry.addLax alike.lax' y
  rw [onAdd, onAdd]
  simp only [left, right, ok, ok']
  exact ⟨⟨rfl, rfl, setTypeAlike both alike.types⟩, .returned trivial⟩

section Compile

variable {parts : Parts} {owner : Node}

theorem fieldsTogether {into into' : List Node → Node → Filling String}
    (inner : ∀ c s, Together d d' (Spells d d') (into c s) (into' c s))
    (chain required : List Node) (properties : List (Node × Node)) :
    Together d d' (List.Forall₂ (AlikeField d d'))
      (fieldsInto parts into chain required properties)
      (fieldsInto parts into' chain required properties) := by
  induction properties with
  | nil => exact togetherPure .nil
  | cons property rest ih =>
    obtain ⟨name, schema⟩ := property
    refine togetherRead _ fun schema => togetherBind (inner _ _) fun type type' both => ?_
    refine togetherRead _ fun comment => togetherBind ih fun fields fields' others => ?_
    exact togetherPure (.cons ⟨rfl, both, rfl, rfl, rfl⟩ others)

theorem recordTogether {into into' : List Node → Node → Filling String}
    (inner : ∀ c s, Together d d' (Spells d d') (into c s) (into' c s)) (chain : List Node)
    (entries : Entries) : Together d d' (Spells d d') (recordInto parts d into owner chain entries)
      (recordInto parts d' into' owner chain entries) := by
  unfold recordInto
  split
  · exact togetherPure (.both .imported)
  · refine togetherRead _ fun title => togetherRead _ fun name => togetherRead _ fun required =>
      togetherRead _ fun properties => ?_
    refine togetherBind (fieldsTogether inner _ _ _) fun fields fields' alike => ?_
    exact togetherBind (togetherAdd ⟨rfl, alike⟩) fun _ _ _ =>
      togetherPure (.both (.named (formatName name)))

theorem primitiveTogether (keys : d.table.map Prod.fst = d'.table.map Prod.fst) (kind : Node) :
    AlikeEnd (Spells d d') (primitiveInto parts d kind) (primitiveInto parts d' kind) := by
  unfold primitiveInto
  cases parts.view kind with
  | str s =>
    by_cases known : s ∈ d.table.map Prod.fst
    · simp only [wordFound known, wordFound (keys ▸ known)]
      rw [d.kinds] at known
      simp only [List.mem_cons, List.not_mem_nil, or_false] at known
      rcases known with rfl | rfl | rfl
      · exact .returned (.both .text)
      · exact .returned (.both .number)
      · exact .returned (.both .boolean)
    · simp only [wordNone known, wordNone (keys ▸ known)]
      exact .refused _
  | _ => exact .refused _

theorem compileTogether (keys : d.table.map Prod.fst = d'.table.map Prod.fst) (fuel : Nat)
    (chain : List Node) (schema : Node) : Together d d' (Spells d d')
      (compileInto parts d owner fuel chain schema)
      (compileInto parts d' owner fuel chain schema) := by
  induction fuel generalizing chain schema with
  | zero => exact togetherLift (.refused .endless)
  | succ fuel ih =>
    rw [compileInto, compileInto]
    refine togetherRead _ fun shape => togetherRead _ fun entries => ?_
    cases shape with
    | array =>
      refine togetherRead _ fun items => togetherBind (ih chain items) ?_
      rintro _ _ ⟨t⟩
      exact togetherPure (.both (.array t))
    | object => exact recordTogether ih chain entries
    | union | any => exact togetherPure (.both .unknown)
    | primitive kind => exact togetherLift (primitiveTogether keys kind)

end Compile

theorem namesAlike {xs ys : List Spelled} (types : List.Forall₂ (AlikeDefinition d d') xs ys) :
    xs.map (·.name) = ys.map (·.name) := by
  induction types with
  | nil => rfl
  | cons here _ ih => rw [List.map_cons, List.map_cons, here.name, ih]

theorem runsAlike (keys : d.table.map Prod.fst = d'.table.map Prod.fst) {r r' : Registry}
    (alike : AlikeRegistry d d' r r') (calls : List Call) :
    List.Forall₂ (AlikeStep d d') (runs d r calls) (runs d' r' calls) := by
  induction calls generalizing r r' with
  | nil => exact .nil
  | cons c rest ih =>
    obtain ⟨after, ending⟩ :=
      compileTogether keys (c.parts.depth c.schema) c.chain c.schema r r' [] [] alike
    exact .cons ⟨namesAlike after.types, after.types, ending⟩ (ih after)

theorem targetsAlike (calls : List Call) :
    List.Forall₂ (AlikeStep Language.typescript.dialect Language.python.dialect)
      (runs Language.typescript.dialect (Registry.empty false) calls)
      (runs Language.python.dialect (Registry.empty false) calls) := by
  have keys : Dialect.typescript.table.map Prod.fst = Dialect.python.table.map Prod.fst := rfl
  exact runsAlike keys ⟨rfl, rfl, .nil⟩ calls

end Targets
end ClientGen
