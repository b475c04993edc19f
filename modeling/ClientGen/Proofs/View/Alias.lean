import ClientGen.Proofs.Compile.Foreign
import ClientGen.Proofs.View.Names

/-! When a view says that it uses the imported type. It does where the spelling of that type occurs
in a reference. Arrays and options do not bring it about: what lies under them is either the imported
type, which only an object that carries the name of another component comes to, or a type of the
view whose own name has the spelling in it. -/
namespace ClientGen

namespace Text

variable {part left right : List Char}

theorem infixApart {c : Char} (apart : c ∉ part) :
    part <:+: left ++ c :: right ↔ part <:+: left ∨ part <:+: right := by
  constructor
  · rintro ⟨before, after, whole⟩
    rcases List.append_eq_append_iff.mp whole with ⟨rest, rfl, _⟩ | ⟨rest, front, back⟩
    · exact .inl ⟨before, rest, rfl⟩
    cases rest with
    | nil => exact .inl ⟨before, [], by simpa using front⟩
    | cons a rest =>
      obtain ⟨rfl, rfl⟩ := List.cons.inj back
      rcases List.append_eq_append_iff.mp front with ⟨lead, _, rfl⟩ | ⟨gap, _, tail⟩
      · simp at apart
      cases gap with
      | nil =>
        cases tail
        simp at apart
      | cons b gap =>
        obtain ⟨_, rfl⟩ := List.cons.inj tail
        exact .inr ⟨gap, after, rfl⟩
  · rintro (inside | inside)
    · exact inside.trans (List.prefix_append _ _).isInfix
    · exact inside.trans (List.suffix_cons _ _ |>.trans (List.suffix_append _ _)).isInfix

theorem infixAround {inner : List Char} {a b : Char} (first : a ∉ part) (last : b ∉ part)
    (before : ¬ part <:+: left) (behind : ¬ part <:+: right) :
    part <:+: left ++ a :: (inner ++ b :: right) ↔ part <:+: inner := by
  rw [infixApart first, or_iff_right before, infixApart last, or_iff_left behind]

end Text

namespace Compile

variable {parts : Parts} {owner : Node} {c : List Node} {s : Node}

def Meets (parts : Parts) (owner : Node) (c : List Node) (s : Node) : Prop :=
  ∃ c' s', Reaches parts owner c s c' s' ∧ Foreign parts owner s'

theorem Meets.inside {c' : List Node} {s' : Node} (call : Calls parts owner c s c' s')
    (meets : Meets parts owner c' s') : Meets parts owner c s := by
  obtain ⟨c'', s'', reach, foreign⟩ := meets
  exact ⟨c'', s'', .inside call reach, foreign⟩

theorem Meets.foreignOrInside (meets : Meets parts owner c s) :
    Foreign parts owner s ∨ ∃ c' s', Calls parts owner c s c' s' ∧ Meets parts owner c' s' := by
  obtain ⟨c', s', reach, foreign⟩ := meets
  cases reach with
  | here => exact .inl foreign
  | inside call rest => exact .inr ⟨_, _, call, _, _, rest, foreign⟩

theorem ownMeets {entries properties : Entries} (shape : parts.shape s = .ok .object)
    (held : parts.entries s = .ok entries) (own : isForeign parts owner entries = false)
    (holds : Compile.properties parts entries = .ok properties)
    (meets : Meets parts owner c s) : ∃ p ∈ properties, ∃ c', Meets parts owner c' p.2 := by
  obtain ⟨_, entries', held', foreign⟩ | ⟨c', s', call, meets⟩ := meets.foreignOrInside
  · cases held.symm.trans held'
    cases own.symm.trans foreign
  · cases call with
    | item shape' => cases shape.symm.trans shape'
    | property _ held' _ _ holds' member =>
      cases held.symm.trans held'
      cases holds.symm.trans holds'
      exact ⟨_, member, _, meets⟩

theorem leafMeetsNone (array : parts.shape s ≠ .ok .array) (object : parts.shape s ≠ .ok .object) :
    ¬ Meets parts owner c s := by
  intro meets
  obtain ⟨shape, _⟩ | ⟨c', s', call, _⟩ := meets.foreignOrInside
  · exact object shape
  · cases call with
    | item shape => exact array shape
    | property shape => exact object shape

theorem primitiveOwn {kind : Node} {t : TypeRef} (ok : primitive parts kind = .ok t) :
    t.base ≠ .imported := by
  unfold primitive at ok
  split at ok <;> cases ok <;> nofun

theorem recordShows {compile : List Node → Node → Compiled TypeRef} {entries : Entries}
    {u : TypeRef} {given : List (Definition TypeRef)} (run : Recorded parts compile c entries u given)
    {d : Definition TypeRef} (member : d ∈ given) {f : Field TypeRef} (shown : f ∈ d.fields) :
    ∃ p ∈ run.properties, Shows compile (innerChain run.title c ++ [p.1]) p.2 f.type := by
  rw [run.given] at member
  rcases List.mem_append.mp member with before | last
  · obtain ⟨p, inside, handed⟩ := (fieldsGiven run.fields d).mp before
    obtain ⟨g, _, field⟩ := fieldOfMember run.fields inside
    exact ⟨p, inside, g.type, field.type, .inr ⟨d, handed, f, shown, rfl⟩⟩
  · cases List.mem_singleton.mp last
    obtain ⟨p, inside, field⟩ := propertyOfField run.fields shown
    exact ⟨p, inside, f.type, field.type, .inl rfl⟩

-- On the fuel. An imported type under arrays, come to or in a field, tells of such an object.
theorem importedMeets {fuel : Nat} {t : TypeRef}
    (seen : Shows (compileAt parts owner fuel) c s t) (imported : t.base = .imported) :
    Meets parts owner c s := by
  induction fuel generalizing c s t with
  | zero =>
    obtain ⟨u, ends, _⟩ := seen
    obtain ⟨_, less, _⟩ := compileAtEnds ends
    cases less
  | succ fuel ih =>
    obtain ⟨u, ends, seen⟩ := seen
    obtain ⟨_, less, ended⟩ := compileAtEnds ends
    cases less
    cases ended with
    | array shape held inner type given =>
      rw [given, type] at seen
      refine .inside (.item shape held) ?_
      rcases seen with rfl | field
      · exact ih ⟨_, inner, .inl rfl⟩ imported
      · exact ih ⟨_, inner, .inr field⟩ imported
    | @object entries shape held record given =>
      cases own : isForeign parts owner entries with
      | true => exact ⟨c, s, .here c s, shape, entries, held, own⟩
      | false =>
        obtain ⟨run⟩ := recordEnds own record
        rcases seen with rfl | ⟨d, member, f, shown, rfl⟩
        · rw [run.type] at imported
          cases imported
        · obtain ⟨p, inside, seen⟩ := recordShows run (given ▸ member) shown
          exact .inside (.property shape held own run.titled run.holds inside) (ih seen imported)
    | free shape type given =>
      rw [given, type] at seen
      rcases seen with rfl | ⟨d, member, _⟩
      · cases imported
      · cases member
    | primitive shape type given =>
      rw [given] at seen
      rcases seen with rfl | ⟨d, member, _⟩
      · exact absurd imported (primitiveOwn type)
      · cases member

end Compile

namespace View

variable {parts : Parts} {language : Language} {strict : Bool} {r : Resource} {name : String}
  {view : ResourceView}

theorem mentionsIff {name reference : String} :
    mentions name reference = true ↔ name.toList <:+: reference.toList := Parts.contiguousIff

theorem mentionsArray (language : Language) (item : String) :
    mentions language.dialect.imported (language.dialect.arrayOf item) =
      mentions language.dialect.imported item := by
  rw [Bool.eq_iff_iff, mentionsIff, mentionsIff]
  cases language with
  | typescript =>
    have letters : (Language.typescript.dialect.arrayOf item).toList =
        "Array".toList ++ '<' :: (item.toList ++ '>' :: []) := by
      simp [Dialect.arrayOf, Language.dialect, Dialect.typescript]
    rw [letters]
    exact Text.infixAround (by decide) (by decide) (by decide) (by decide)
  | python =>
    have letters : (Language.python.dialect.arrayOf item).toList =
        "list".toList ++ '[' :: (item.toList ++ ']' :: []) := by
      simp [Dialect.arrayOf, Language.dialect, Dialect.python]
    rw [letters]
    exact Text.infixAround (by decide) (by decide) (by decide) (by decide)

theorem mentionsOption (language : Language) (type : String) :
    mentions language.dialect.imported (type ++ " | None") =
      mentions language.dialect.imported type := by
  rw [Bool.eq_iff_iff, mentionsIff, mentionsIff]
  have letters : (type ++ " | None").toList = type.toList ++ ' ' :: "| None".toList := by simp
  have apart : ' ' ∉ language.dialect.imported.toList := by cases language <;> decide
  have behind : ¬ language.dialect.imported.toList <:+: "| None".toList := by
    cases language <;> decide
  rw [letters, Text.infixApart apart, or_iff_left behind]

theorem mentionsField {f : Field String} {v : FieldView} (ok : field language f = .ok v) :
    mentions language.dialect.imported v.type = mentions language.dialect.imported f.type := by
  unfold field at ok
  split at ok
  · cases ok
    cases language with
    | typescript =>
      simp only [typescriptField]
      split <;> rfl
    | python =>
      simp only [pythonField]
      split
      · exact mentionsOption .python f.type
      · rfl
  · contradiction

theorem mentionsFields {fs : List (Field String)} {vs : List FieldView}
    (ok : fields language fs = .ok vs) :
    (vs.any fun v => mentions language.dialect.imported v.type) =
      fs.any fun f => mentions language.dialect.imported f.type := by
  induction fs generalizing vs with
  | nil =>
    cases ok
    rfl
  | cons f rest ih =>
    obtain ⟨v, first, ok⟩ := Fault.bindOk ok
    obtain ⟨vs', others, ok⟩ := Fault.bindOk ok
    cases ok
    rw [List.any_cons, List.any_cons, mentionsField first, ih others]

theorem requiredFirstAny (p : FieldView → Bool) (fs : List FieldView) :
    (requiredFirst fs).any p = fs.any p := by
  rw [Bool.eq_iff_iff, List.any_eq_true, List.any_eq_true]
  simp only [requiredFirstMember]

theorem mentionsType {d : Spelled} {t : TypeView} (ok : type language d = .ok t) :
    (t.fields.any fun v => mentions language.dialect.imported v.type) =
      d.fields.any fun f => mentions language.dialect.imported f.type := by
  obtain ⟨vs, shown, ok⟩ := Fault.bindOk ok
  cases ok
  rw [← mentionsFields shown]
  cases language with
  | typescript => rfl
  | python => exact requiredFirstAny _ vs

theorem mentionsTypes {ds : List Spelled} {ts : List TypeView} (ok : types language ds = .ok ts) :
    (ts.any fun t => t.fields.any fun v => mentions language.dialect.imported v.type) =
      ds.any fun d => d.fields.any fun f => mentions language.dialect.imported f.type := by
  induction ds generalizing ts with
  | nil =>
    cases ok
    rfl
  | cons d rest ih =>
    obtain ⟨t, first, ok⟩ := Fault.bindOk ok
    obtain ⟨ts', others, ok⟩ := Fault.bindOk ok
    cases ok
    rw [List.any_cons, List.any_cons, mentionsType first, ih others]

theorem importedMentioned (ok : (resource parts language strict r name).result = .ok view) :
    view.usesImported = (referred (registry parts language strict r) view.operations).any
      (mentions language.dialect.imported) := by
  have run := resourceRuns ok
  have types : (view.types.flatMap fun t => t.fields.map (·.type)).any
      (mentions language.dialect.imported) =
        ((registry parts language strict r).types.flatMap fun d => d.fields.map (·.type)).any
          (mentions language.dialect.imported) := by
    simp only [List.any_flatMap, List.any_map]
    exact mentionsTypes run.types
  rw [run.imported, references, referred, List.any_append, List.any_append, types]
  rfl

theorem mentionsSpelled (language : Language) (t : TypeRef) :
    mentions language.dialect.imported (language.dialect.spell t) = true ↔ t.base = .imported ∨
      ∃ name, t.base = .named name ∧ mentions language.dialect.imported name = true := by
  induction t with
  | array item ih =>
    rw [TypeRef.base, ← ih]
    exact Bool.eq_iff_iff.mp (mentionsArray language _)
  | named name => simp [TypeRef.base, Dialect.spell]
  | _ => cases language <;> simp [TypeRef.base] <;> decide

def PassesOver (parts : Parts) (r : Resource) : Prop :=
  ∃ c s, Starts parts r c s ∧ Compile.Meets parts r.name c s

-- A type of the view is referred to that has the spelling of the imported type in its name.
def Lookalike (language : Language) (registry : Registry) (view : ResourceView) : Prop :=
  ∃ n name, name ∈ view.types.map (·.name) ∧
    mentions language.dialect.imported name = true ∧
    language.dialect.arrayOf^[n] name ∈ referred registry view.operations

theorem mentionsArrays (language : Language) (n : Nat) (name : String) :
    mentions language.dialect.imported (language.dialect.arrayOf^[n] name) =
      mentions language.dialect.imported name := by
  induction n with
  | zero => rfl
  | succ n ih => rw [Function.iterate_succ_apply', mentionsArray, ih]

theorem lookalikeMentioned (ok : (resource parts language strict r name).result = .ok view)
    (alike : Lookalike language (registry parts language strict r) view) :
    view.usesImported = true := by
  obtain ⟨n, type, _, mentioned, member⟩ := alike
  rw [importedMentioned ok, List.any_eq_true]
  exact ⟨_, member, (mentionsArrays language n type).trans mentioned⟩

theorem importedFrom (ok : (resource parts language strict r name).result = .ok view)
    (uses : view.usesImported = true) :
    PassesOver parts r ∨ Lookalike language (registry parts language strict r) view := by
  have run := resourceRuns ok
  obtain ⟨os, compiled, same⟩ := referredCompiled run
  rw [importedMentioned ok, List.any_eq_true] at uses
  obtain ⟨reference, member, mentioned⟩ := uses
  obtain ⟨c, s, t, start, rfl, seen⟩ := referredSource compiled (same ▸ member)
  rcases (mentionsSpelled language t).mp mentioned with imported | ⟨type, named, mentioned⟩
  · exact .inl ⟨c, s, start, Compile.importedMeets seen imported⟩
  · have known : TypeRef.NamedIn (view.types.map (·.name)) (.named type) := by
      rw [(typesShown run.types).1, ← named, TypeRef.baseNamedIn]
      exact shownNamed run.added compiled start seen
    refine .inr ⟨t.nesting, type, known, mentioned, ?_⟩
    rw [language.dialect.spellBase t, named] at member
    exact member

end View
end ClientGen
