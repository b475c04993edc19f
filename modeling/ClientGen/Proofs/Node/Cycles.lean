import ClientGen.Node.Parts
import ClientGen.Proofs.Node.Weight
import Mathlib.Data.Set.Finite.Lattice
import Mathlib.Data.Fintype.Order
import Mathlib.Logic.Relation
import Mathlib.Order.WellFounded

/-! What lies inside a value of a document, at any depth. A document is a graph: by a link a value may
lie inside itself. But the graph is finite, so that there is no way without end from a value that does
not lead to a cycle. -/
namespace ClientGen
open Relation

namespace Node

def members : Node → List Node
  | .set items => items
  | .pair a b => [a, b]
  | .list items => items
  | .map entries => entries.map (·.2)
  | _ => []

theorem memberWeight {n m : Node} (member : m ∈ n.members) : m.weight < n.weight := by
  cases n with
  | set items =>
    have inside := itemWeight (show m ∈ items from member)
    simp only [weight]
    omega
  | list items =>
    have inside := itemWeight (show m ∈ items from member)
    simp only [weight]
    omega
  | pair a b =>
    simp only [members, List.mem_cons, List.not_mem_nil, or_false] at member
    rcases member with rfl | rfl <;> simp only [weight] <;> omega
  | map entries =>
    obtain ⟨⟨k, v⟩, there, rfl⟩ := List.mem_map.mp member
    have inside := valueWeight there
    simp only [weight]
    omega
  | _ => cases member

def children : Node → List Node
  | .list items => items
  | .map entries => entries.map (·.2)
  | _ => []

theorem childMember {n m : Node} (child : m ∈ n.children) : m ∈ n.members := by
  cases n with
  | list items => exact child
  | map entries => exact child
  | _ => cases child

abbrev Held : Node → Node → Prop := ReflTransGen fun n m => m ∈ n.members

theorem heldFew (n : Node) : {m | n.Held m}.Finite := by
  induction size : n.weight using Nat.strong_induction_on generalizing n with
  | _ size ih =>
    subst size
    have inner : (⋃ c ∈ {c | c ∈ n.members}, {m | c.Held m}).Finite :=
      (List.finite_toSet n.members).biUnion fun c member => ih _ (memberWeight member) c rfl
    refine (inner.insert n).subset fun m held => ?_
    rcases ReflTransGen.cases_head held with rfl | ⟨c, member, rest⟩
    · exact Set.mem_insert _ _
    · exact Set.mem_insert_of_mem _ (Set.mem_biUnion member rest)

end Node

namespace Parts

variable (parts : Parts)

def Inside (outer inner : Node) : Prop := inner ∈ (parts.view outer).members

variable {parts}

theorem insideFew (n : Node) : {m | ReflTransGen parts.Inside n m}.Finite := by
  have rows : (⋃ row ∈ {row | row ∈ parts}, {m | row.Held m}).Finite :=
    (List.finite_toSet parts).biUnion fun row _ => row.heldFew
  refine (n.heldFew.union rows).subset fun m reach => ?_
  induction reach with
  | refl => exact .inl .refl
  | @tail b c _ inside ih =>
    cases b with
    | link i =>
      simp only [Inside, view] at inside
      cases row : parts[i]? with
      | none => simp [row, Node.members] at inside
      | some r =>
        rw [row] at inside
        exact .inr (Set.mem_biUnion (List.mem_of_getElem? row) (.single inside))
    | _ =>
      rcases ih with held | held
      · exact .inl (held.tail inside)
      · obtain ⟨row, there, held⟩ := Set.mem_iUnion₂.mp held
        exact .inr (Set.mem_biUnion there (held.tail inside))

end Parts

section Ways

variable {α : Type} {r : α → α → Prop} {a : α}

def Cyclic (r : α → α → Prop) (a : α) : Prop := ∃ b, ReflTransGen r a b ∧ TransGen r b b

theorem accAcyclic (ends : Acc (fun x y => r y x) a) : ¬ Cyclic r a := by
  induction ends with
  | intro a _ ih =>
    have rooted : ¬ TransGen r a a := fun around => by
      obtain ⟨b, step, rest⟩ := TransGen.head'_iff.mp around
      exact ih b step ⟨a, rest, around⟩
    rintro ⟨b, reach, around⟩
    rcases ReflTransGen.cases_head reach with rfl | ⟨c, step, rest⟩
    · exact rooted around
    · exact ih c step ⟨b, rest, around⟩

theorem acyclicAcc (few : {b | ReflTransGen r a b}.Finite) (acyclic : ¬ Cyclic r a) :
    Acc (fun x y => r y x) a := by
  let Reached := {b // ReflTransGen r a b}
  have : Finite Reached := few
  let ahead : Reached → Reached → Prop := fun x y => TransGen r y.1 x.1
  have : IsTrans Reached ahead := ⟨fun _ _ _ first second => second.trans first⟩
  have : Std.Irrefl ahead := ⟨fun b around => acyclic ⟨b.1, b.2, around⟩⟩
  have ends := (Finite.wellFounded_of_trans_of_irrefl ahead).apply ⟨a, .refl⟩
  generalize start : (⟨a, .refl⟩ : Reached) = x at ends
  have goal : Acc (fun x y => r y x) x.1 := by
    clear start
    induction ends with
    | intro x _ ih => exact .intro _ fun b step => ih ⟨b, x.2.tail step⟩ (.single step)
  rwa [← start] at goal

end Ways
end ClientGen
