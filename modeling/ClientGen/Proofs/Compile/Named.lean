import ClientGen.Proofs.Compile.Calls
import Mathlib.Logic.Function.Iterate

/-! Every name that a type mentions is the name of a definition that was handed out with it, also
for the types of the fields of these definitions. -/
namespace ClientGen

namespace TypeRef

def NamedIn (names : List String) : TypeRef → Prop
  | .named name => name ∈ names
  | .array item => item.NamedIn names
  | _ => True

def base : TypeRef → TypeRef
  | .array item => item.base
  | t => t

def nesting : TypeRef → Nat
  | .array item => item.nesting + 1
  | _ => 0

theorem NamedIn.mono {names names' : List String} (more : names ⊆ names') {t : TypeRef}
    (ok : t.NamedIn names) : t.NamedIn names' := by
  induction t with
  | named name => exact more ok
  | array item ih => exact ih ok
  | _ => trivial

theorem baseNamedIn {names : List String} {t : TypeRef} :
    t.base.NamedIn names ↔ t.NamedIn names := by
  induction t with
  | array item ih => exact ih
  | _ => exact Iff.rfl

end TypeRef

namespace Dialect

def arrayOf (d : Dialect) (item : String) : String := d.arrayOpen ++ item ++ d.arrayClose

theorem spellBase (d : Dialect) (t : TypeRef) :
    d.spell t = d.arrayOf^[t.nesting] (d.spell t.base) := by
  induction t with
  | array item ih =>
    rw [TypeRef.nesting, Function.iterate_succ_apply', TypeRef.base, ← ih]
    rfl
  | _ => rfl

end Dialect

namespace Compile

variable {parts : Parts} {owner : Node}

abbrev givenNames (given : List (Definition TypeRef)) : List String := given.map (·.name)

theorem primitiveNamed {kind : Node} {t : TypeRef} (ok : primitive parts kind = .ok t)
    (names : List String) : t.NamedIn names := by
  unfold primitive at ok
  split at ok <;> cases ok <;> trivial

def Named (compile : List Node → Node → Compiled TypeRef) (c : List Node) (s : Node)
    (t : TypeRef) : Prop :=
  t.NamedIn (givenNames (compile c s).given) ∧
    ∀ d ∈ (compile c s).given, ∀ f ∈ d.fields, f.type.NamedIn (givenNames (compile c s).given)

theorem recordNamed {compile : List Node → Node → Compiled TypeRef} {chain : List Node}
    {entries : Entries} {t : TypeRef} {given : List (Definition TypeRef)}
    (run : Recorded parts compile chain entries t given)
    (inner : ∀ c s t, Ends compile c s t → Named compile c s t) :
    t.NamedIn (givenNames given) ∧
      ∀ d ∈ given, ∀ f ∈ d.fields, f.type.NamedIn (givenNames given) := by
  have handed {p : Node × Node} (member : p ∈ run.properties) :
      givenNames (compile (innerChain run.title chain ++ [p.1]) p.2).given ⊆ givenNames given := by
    refine List.map_subset _ fun d inside => ?_
    rw [run.given]
    exact List.mem_append_left _ ((fieldsGiven run.fields d).mpr ⟨p, member, inside⟩)
  constructor
  · rw [run.type]
    exact List.mem_map_of_mem run.last
  · intro d member f shown
    rw [run.given] at member
    rcases List.mem_append.mp member with before | last
    · obtain ⟨p, inside, given⟩ := (fieldsGiven run.fields d).mp before
      obtain ⟨g, _, field⟩ := fieldOfMember run.fields inside
      exact ((inner _ _ _ field.type).2 d given f shown).mono (handed inside)
    · cases List.mem_singleton.mp last
      obtain ⟨p, inside, field⟩ := propertyOfField run.fields shown
      exact (inner _ _ _ field.type).1.mono (handed inside)

-- On the fuel. The definition of a record comes after all that its fields mention.
theorem compileAtNamed {fuel : Nat} {chain : List Node} {schema : Node} {t : TypeRef}
    (ends : Ends (compileAt parts owner fuel) chain schema t) :
    Named (compileAt parts owner fuel) chain schema t := by
  unfold Named
  induction fuel generalizing chain schema t with
  | zero =>
    obtain ⟨_, less, _⟩ := compileAtEnds ends
    cases less
  | succ fuel ih =>
    obtain ⟨_, less, ended⟩ := compileAtEnds ends
    cases less
    cases ended with
    | array shape held inner type given =>
      cases type
      rw [given]
      have item := ih inner
      exact ⟨item.1, item.2⟩
    | @object entries shape held record given =>
      rw [given]
      cases own : isForeign parts owner entries with
      | true =>
        rw [recordForeign own] at record ⊢
        cases record
        exact ⟨trivial, by simp⟩
      | false =>
        obtain ⟨run⟩ := recordEnds own record
        exact recordNamed run fun c s t ends => ih ends
    | free shape type given =>
      rw [type, given]
      exact ⟨trivial, by simp⟩
    | primitive shape type given =>
      rw [given]
      exact ⟨primitiveNamed type _, by simp⟩

end Compile
end ClientGen
