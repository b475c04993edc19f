import ClientGen.Proofs.Compile.Keyed
import ClientGen.Proofs.Naming.Identifier
import ClientGen.Proofs.Registry.Taking

/-! Compiling straight into a registry. Every record is registered as soon as it is complete, and its
references are spelled at once; a failure leaves the registry as it is by then. To do so is to compile
first and to register what has been handed out afterwards, so what is registered depends on the
schema and its chain alone, and for a titled object not even on the chain. -/
namespace ClientGen

/-- The registry as it stands, and what has been reported. A failure leaves both as they are. -/
abbrev Filling := ExceptT Fault (StateM (Registry × List Event))

namespace Filling

variable {α β : Type} {d : Dialect}

def on (f : Filling α) (r : Registry) (told : List Event) :
    Except Fault α × Registry × List Event := (ExceptT.run f).run (r, told)

theorem onBind (f : Filling α) (g : α → Filling β) (r : Registry) (told : List Event) :
    (f >>= g).on r told = match f.on r told with
      | (.ok a, r, told) => (g a).on r told
      | (.error fault, r, told) => (.error fault, r, told) := by
  unfold on ExceptT.run StateT.run
  simp only [bind, ExceptT.bind, ExceptT.mk, StateT.bind, ExceptT.bindCont]
  cases f (r, told) with
  | mk result next => cases result <;> rfl

theorem same {f g : Filling α} (each : ∀ r told, f.on r told = g.on r told) : f = g :=
  funext fun s => each s.1 s.2

def add (x : Spelled) : Filling Unit := ExceptT.mk fun s =>
  let (r, report) := s.1.add x
  (report.result, r, s.2 ++ report.given)

theorem onAdd (x : Spelled) (r : Registry) (told : List Event) : (add x).on r told =
    ((r.add x).2.result, (r.add x).1, told ++ (r.add x).2.given) := rfl

def after (d : Dialect) (t : Compile.Compiled α) : Filling α := ExceptT.mk fun s =>
  let (r, report) := s.1.absorb (t.mapGiven d.define)
  (report.result, r, s.2 ++ report.given)

theorem onAfter (t : Compile.Compiled α) (r : Registry) (told : List Event) :
    (after d t).on r told = ((r.absorb (t.mapGiven d.define)).2.result,
      (r.absorb (t.mapGiven d.define)).1, told ++ (r.absorb (t.mapGiven d.define)).2.given) := rfl

theorem afterPure (a : α) : after d (pure a) = pure a :=
  same fun r told => by
    rw [onAfter]
    simp only [Registry.absorb, Trail.mapGiven, Trail.pureGiven, List.map_nil, Registry.addAll,
      Trail.pureResult, List.append_nil]
    rfl

theorem afterBind (t : Compile.Compiled α) (f : α → Compile.Compiled β) :
    after d (t >>= f) = after d t >>= fun a => after d (f a) := by
  refine same fun r told => ?_
  rw [onBind, onAfter, onAfter]
  simp only [Registry.absorb, Trail.mapGiven]
  cases ended : t.result with
  | error fault =>
    rw [Trail.bindFails f ended]
    cases (r.addAll (t.given.map d.define)).2.result <;> rfl
  | ok a =>
    rw [Trail.bindGiven f ended, Trail.bindResult f ended, List.map_append, Registry.addAllAppend]
    cases added : (r.addAll (t.given.map d.define)).2.result with
    | error fault => simp only [added]
    | ok _ =>
      simp only [onAfter, Registry.absorb, Trail.mapGiven, List.append_assoc]

theorem afterLift (r : Except Fault α) :
    after d (liftM r : Compile.Compiled α) = (liftM r : Filling α) := by
  refine same fun registry told => ?_
  rw [onAfter]
  cases r <;> simp [Registry.absorb, Trail.mapGiven, Registry.addAll] <;> rfl

theorem afterGive (x : Definition TypeRef) : after d (Trail.give x) = add (d.define x) := by
  refine same fun r told => ?_
  rw [onAfter, onAdd]
  simp only [Registry.absorb, Trail.mapGiven, Trail.giveGiven, Trail.giveResult, List.map_cons,
    List.map_nil, Registry.addAll]
  cases added : (r.add (d.define x)).2.result with
  | error fault => simp only [added]
  | ok _ => simp only [Trail.pureGiven, Trail.pureResult, List.append_nil]

theorem afterFail (fault : Fault) :
    after d (Trail.fail fault : Compile.Compiled α) = throw fault :=
  afterLift (.error fault)

theorem afterMap (f : α → β) (t : Compile.Compiled α) : after d (f <$> t) = f <$> after d t := by
  rw [← bind_pure_comp, ← bind_pure_comp, afterBind]
  simp only [afterPure]

end Filling

namespace Compile

variable (parts : Parts) (d : Dialect)

def primitiveInto (kind : Node) : Except Fault String :=
  match parts.view kind with
  | .str s =>
    match d.table.lookup s with
    | some word => .ok word
    | none => .error (unsupported parts kind)
  | _ => .error (unsupported parts kind)

def fieldsInto (compile : List Node → Node → Filling String) (chain required : List Node) :
    List (Node × Node) → Filling (List (Field String))
  | [] => pure []
  | (name, schema) :: rest => do
    let schema ← parts.refuseReference schema
    let type ← compile (chain ++ [name]) schema
    let comment ← parts.field schema "description"
    let field : Field String :=
      { name := name, type := type, isOptional := !required.any fun k => name.same k,
        comment := parts.close comment, readonly := true }
    return field :: (← fieldsInto compile chain required rest)

def recordInto (compile : List Node → Node → Filling String) (owner : Node) (chain : List Node)
    (entries : Entries) : Filling String := do
  if isForeign parts owner entries then return d.imported
  let title ← titleName parts entries
  let name ← ownName parts title chain
  let required ← requiredKeys parts entries
  let properties ← properties parts entries
  let fields ← fieldsInto parts compile (innerChain title chain) required properties
  Filling.add ⟨formatName name, fields⟩
  return formatName name

def compileInto (owner : Node) : Nat → List Node → Node → Filling String
  | 0, _, _ => throw .endless
  | fuel + 1, chain, schema => do
    let shape ← parts.shape schema
    let entries ← parts.entries schema
    match shape with
    | .array =>
      let items ← parts.refuseReference (itemSchema parts entries)
      return d.arrayOpen ++ (← compileInto owner fuel chain items) ++ d.arrayClose
    | .object => recordInto parts d (compileInto owner fuel) owner chain entries
    | .union | .any => return d.unknown
    | .primitive kind => primitiveInto parts d kind

variable {parts d} {owner : Node}
open Filling

theorem wordFound {kind : String} (known : kind ∈ d.table.map Prod.fst) :
    d.table.lookup kind = some (d.word kind) := by
  obtain ⟨e, member, rfl⟩ := List.mem_map.mp known
  obtain ⟨word, found⟩ := Option.isSome_iff_exists.mp
    (List.lookup_isSome_iff.mpr ⟨e, member, beq_self_eq_true e.1⟩)
  rw [Dialect.word, found, Option.getD_some]

theorem wordNone {kind : String} (unknown : kind ∉ d.table.map Prod.fst) :
    d.table.lookup kind = none := by
  refine List.lookup_eq_none_iff.mpr fun e member => bne_iff_ne.mpr ?_
  rintro rfl
  exact unknown (List.mem_map_of_mem member)

theorem primitiveSpelled (kind : Node) :
    primitiveInto parts d kind = (primitive parts kind).map d.spell := by
  unfold primitiveInto primitive
  generalize parts.view kind = shown
  cases shown with
  | str s =>
    by_cases known : s ∈ d.table.map Prod.fst
    · simp only [wordFound known]
      rw [d.kinds] at known
      simp only [List.mem_cons, List.not_mem_nil, or_false] at known
      rcases known with rfl | rfl | rfl <;> rfl
    · simp only [wordNone known]
      rw [d.kinds] at known
      split <;> first | rfl | simp_all
  | _ => rfl

theorem fieldsFilled {compile : List Node → Node → Compiled TypeRef}
    {into : List Node → Node → Filling String}
    (inner : ∀ c s, into c s = after d (d.spell <$> compile c s)) (chain required : List Node)
    (properties : List (Node × Node)) :
    fieldsInto parts into chain required properties =
      after d (List.map (Field.map d.spell) <$> fields parts compile chain required properties) := by
  induction properties with
  | nil => exact (afterPure _).symm
  | cons property rest ih =>
    obtain ⟨name, schema⟩ := property
    rw [fieldsInto, fields]
    simp only [map_bind, map_pure, afterBind, afterLift, afterPure, inner, ih, afterMap,
      bind_map_left]
    rfl

theorem recordFilled {compile : List Node → Node → Compiled TypeRef}
    {into : List Node → Node → Filling String}
    (inner : ∀ c s, into c s = after d (d.spell <$> compile c s)) (chain : List Node)
    (entries : Entries) :
    recordInto parts d into owner chain entries =
      after d (d.spell <$> record parts compile owner chain entries) := by
  unfold recordInto record
  split
  · exact (afterPure _).symm
  · simp only [map_bind, map_pure, afterBind, afterLift, afterPure, fieldsFilled inner, afterMap,
      bind_map_left, afterGive]
    rfl

theorem compileFilled (fuel : Nat) (chain : List Node) (schema : Node) :
    compileInto parts d owner fuel chain schema =
      after d (d.spell <$> compileAt parts owner fuel chain schema) := by
  induction fuel generalizing chain schema with
  | zero => exact (afterFail _).symm
  | succ fuel ih =>
    rw [compileInto, compileAt]
    simp only [map_bind, afterBind, afterLift]
    refine bind_congr fun shape => bind_congr fun entries => ?_
    cases shape with
    | array =>
      simp only [map_bind, map_pure, afterBind, afterLift, afterPure, ih, afterMap, bind_map_left]
      rfl
    | object => exact recordFilled ih chain entries
    | union | any => exact (afterPure _).symm
    | primitive kind =>
      dsimp only
      rw [afterMap, afterLift, primitiveSpelled]
      cases primitive parts kind <;> rfl

structure Titled (parts : Parts) (schema : Node) : Prop where
  shape : parts.shape schema = .ok .object
  title : ∃ entries title text, parts.view schema = .map entries ∧
    Entries.at? "title" entries = some title ∧ parts.view title = .str text ∧
    ∃ c ∈ text.toList, Text.isSpace c = false

theorem titledName {schema : Node} (titled : Titled parts schema) :
    ∃ entries name, parts.entries schema = .ok entries ∧
      titleName parts entries = .ok (some name) := by
  obtain ⟨entries, title, text, shown, found, worded, c, inside, printed⟩ := titled.title
  have letters : c ∈ Naming.typeName text.toList := Naming.typeNameMember.mpr ⟨inside, printed⟩
  have full : (Naming.typeName text.toList).isEmpty = false := by
    cases name : Naming.typeName text.toList with
    | nil => simp [name] at letters
    | cons => rfl
  have holds : parts.holds title = true := by
    cases empty : text.isEmpty with
    | false => simp [Parts.holds, worded, Node.holds, empty]
    | true => simp [String.isEmpty_iff.mp empty] at inside
  refine ⟨entries, Naming.typeName text.toList, Parts.entriesShown shown, ?_⟩
  simp [titleName, found, holds, nameText, worded, full, bind, Except.bind, pure, Except.pure]

theorem titledAlike {schema : Node} (titled : Titled parts schema) (fuel : Nat)
    (chain chain' : List Node) :
    compileAt parts owner fuel chain schema = compileAt parts owner fuel chain' schema := by
  obtain ⟨entries, name, held, named⟩ := titledName titled
  cases fuel with
  | zero => rfl
  | succ fuel =>
    rw [compileAt, compileAt, titled.shape, held]
    simp only [Trail.liftOkBind, record, named, ownName, innerChain]

section Trace

variable (parts) (d) (owner) (fuel : Nat) (chain : List Node) (schema : Node)

def trace : List Spelled := (compileAt parts owner fuel chain schema).given.map d.define

def ending : Except Fault String := (compileAt parts owner fuel chain schema).result.map d.spell

end Trace

section Runs

variable {r : Registry} {fuel : Nat} {chain : List Node} {schema : Node}

theorem absorbSpelled (t : Compiled TypeRef) (r : Registry) :
    r.absorb ((d.spell <$> t).mapGiven d.define) = r.take d t := by
  have given : (d.spell <$> t).given = t.given := by
    cases ended : t.result <;> simp [← bind_pure_comp, bind, Trail.andThen, ended]
  have result : (d.spell <$> t).result = t.result.map d.spell := by
    cases ended : t.result <;> simp [← bind_pure_comp, bind, Trail.andThen, ended, Except.map]
  simp only [Registry.take, Registry.absorb, Trail.mapGiven, given, result]
  cases (r.addAll (t.given.map d.define)).2.result <;> rfl

theorem intoTakes (told : List Event) : (compileInto parts d owner fuel chain schema).on r told =
    ((r.take d (compileAt parts owner fuel chain schema)).2.result,
      (r.take d (compileAt parts owner fuel chain schema)).1,
      told ++ (r.take d (compileAt parts owner fuel chain schema)).2.given) := by
  rw [compileFilled, onAfter, absorbSpelled]

theorem takeTrace (added : (r.addAll (trace parts d owner fuel chain schema)).2.result = .ok ()) :
    r.take d (compileAt parts owner fuel chain schema) =
      ((r.addAll (trace parts d owner fuel chain schema)).1,
        ⟨(r.addAll (trace parts d owner fuel chain schema)).2.given,
          ending parts d owner fuel chain schema⟩) := by
  simp only [trace] at added
  simp only [Registry.take, Registry.absorb, Trail.mapGiven, trace, ending, added]

theorem traceKeyed (keyed : parts.Keyed schema) :
    ∀ x ∈ trace parts d owner fuel chain schema, x.Keyed := by
  intro x member
  obtain ⟨given, handed, rfl⟩ := List.mem_map.mp member
  exact definedKeyed (compileAtKeyed keyed given handed)

theorem takeAgain {t : Compiled TypeRef}
    (again : ((r.addAll (t.given.map d.define)).1.addAll (t.given.map d.define)).1 =
        (r.addAll (t.given.map d.define)).1 ∧
      ((r.addAll (t.given.map d.define)).1.addAll (t.given.map d.define)).2.result =
        (r.addAll (t.given.map d.define)).2.result) :
    ((r.take d t).1.take d t).1 = (r.take d t).1 ∧
      ((r.take d t).1.take d t).2.result = (r.take d t).2.result := by
  simp only [Registry.take, Registry.absorb, Trail.mapGiven, again.2]
  exact ⟨again.1, trivial⟩

end Runs

structure Again (first second : Except Fault String × Registry × List Event) : Prop where
  ending : second.1 = first.1
  registry : second.2.1 = first.2.1

theorem titledAgain {schema : Node} (titled : Titled parts schema) {fuel : Nat}
    {chain chain' : List Node} {r : Registry} (told : List Event)
    (known : r.strict = false ∨ parts.Keyed schema) :
    Again ((compileInto parts d owner fuel chain schema).on r told)
      ((compileInto parts d owner fuel chain' schema).on
        ((compileInto parts d owner fuel chain schema).on r told).2.1
        ((compileInto parts d owner fuel chain schema).on r told).2.2) := by
  have alike : compileAt parts owner fuel chain' schema = compileAt parts owner fuel chain schema :=
    titledAlike titled fuel chain' chain
  have row : r.strict = false ∨ ∀ x ∈ trace parts d owner fuel chain schema, x.Keyed :=
    known.imp_right traceKeyed
  obtain ⟨registry, ending⟩ := takeAgain (Registry.addAllAgain row)
  rw [intoTakes, intoTakes, alike]
  exact ⟨ending, registry⟩

theorem registryOnlyWritten (parts : Parts) (d : Dialect) (owner : Node) (fuel : Nat)
    (schema : Node) :
    ∃ (trace : List Node → List Spelled) (ending : List Node → Except Fault String),
      (∀ chain (r : Registry) told, r.strict = false →
        (compileInto parts d owner fuel chain schema).on r told =
          (ending chain, (r.addAll (trace chain)).1, told ++ (r.addAll (trace chain)).2.given) ∧
        r.take d (compileAt parts owner fuel chain schema) =
          ((r.addAll (trace chain)).1, ⟨(r.addAll (trace chain)).2.given, ending chain⟩)) ∧
      (Titled parts schema → ∀ chain chain',
        trace chain = trace chain' ∧ ending chain = ending chain') ∧
      (Titled parts schema → ∀ chain chain' (r : Registry) told,
        let first := (compileInto parts d owner fuel chain schema).on r told
        let second := (compileInto parts d owner fuel chain' schema).on first.2.1 first.2.2
        r.strict = false ∨ parts.Keyed schema → Again first second) := by
  refine ⟨fun chain => trace parts d owner fuel chain schema,
    fun chain => ending parts d owner fuel chain schema, ?_, ?_, ?_⟩
  · intro chain r told lax
    have takes := takeTrace (Registry.addAllLax lax (trace parts d owner fuel chain schema))
    exact ⟨by rw [intoTakes, takes], takes⟩
  · intro titled chain chain'
    have alike : compileAt parts owner fuel chain schema =
        compileAt parts owner fuel chain' schema := titledAlike titled fuel chain chain'
    exact ⟨by simp only [Compile.trace, alike], by simp only [Compile.ending, alike]⟩
  · intro titled chain chain' r told first second known
    exact titledAgain titled told known

def contact : Node :=
  Node.object [("title", .str "Contact Point"), ("type", .str "object"),
    ("properties", Node.object [("value", Node.object [("type", .str "string")])])]

def otherContact : Registry := ⟨false, [⟨"ContactPoint", []⟩, ⟨"Member", []⟩]⟩

theorem contactKeyed : Parts.Keyed [] contact := by
  have text (s : String) : Parts.Keyed [] (.str s) := .of trivial (by simp [Parts.view, Node.members])
  have value : Parts.Keyed [] (Node.object [("type", .str "string")]) :=
    Parts.objectKeyed (by decide) (by simp [text])
  have table : Parts.Keyed [] (Node.object [("value", Node.object [("type", .str "string")])]) :=
    Parts.objectKeyed (by decide) (by simp [value])
  exact Parts.objectKeyed (by decide) (by simp [text, table])

theorem contactAgain :
    let compiled (name : String) := compileInto [] .typescript (.str "Member") 2 [.str name] contact
    let first := (compiled "Primary").on otherContact []
    let strictly := (compiled "Primary").on (.empty true) []
    Titled [] contact ∧ otherContact.strict = false ∧ Parts.Keyed [] contact ∧
      first.1 = .ok "ContactPoint" ∧ Again first ((compiled "Backup").on first.2.1 first.2.2) ∧
      strictly.1 = .ok "ContactPoint" ∧
      Again strictly ((compiled "Backup").on strictly.2.1 strictly.2.2) := by
  have titled : Titled [] contact :=
    ⟨rfl, _, _, "Contact Point", rfl, rfl, rfl, 'C', by decide, by decide⟩
  obtain ⟨_, _, _, _, twice⟩ :=
    registryOnlyWritten [] .typescript (.str "Member") 2 contact
  have lax := twice titled [.str "Primary"] [.str "Backup"] otherContact [] (.inl rfl)
  have strict := twice titled [.str "Primary"] [.str "Backup"] (.empty true) [] (.inr contactKeyed)
  exact ⟨titled, rfl, contactKeyed, by decide +kernel, lax, by decide +kernel, strict⟩

end Compile
end ClientGen
