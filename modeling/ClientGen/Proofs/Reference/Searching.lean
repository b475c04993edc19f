import ClientGen.Reference.Remaining
import ClientGen.Proofs.Node.Cycles
import Mathlib.Algebra.BigOperators.Intervals
import Mathlib.Logic.Relation

/-! What the search for references comes by. It ends in every document, also in one that contains
itself, for it enters no row of the table twice; and it overlooks nothing that the document leads to,
for what it has looked at leads on only to what it has looked at or still will. -/
namespace ClientGen
open Relation

namespace Node

theorem weightListSum (ns : List Node) : weightList ns = (ns.map weight).sum := by
  induction ns with
  | nil => rfl
  | cons n rest ih => rw [weightList, ih, List.map_cons, List.sum_cons]

theorem childrenWeight (n : Node) : weightList n.children < n.weight := by
  have values (es : List (Node × Node)) : weightList (es.map (·.2)) ≤ weightEntries es := by
    induction es with
    | nil => exact Nat.le_refl 0
    | cons e rest ih =>
      simp only [List.map_cons, weightList, weightEntries]
      omega
  cases n with
  | list items =>
    simp only [children, weight]
    omega
  | map entries =>
    have := values entries
    simp only [children, weight]
    omega
  | _ => exact weightPositive _

theorem referenceIff {n : Node} {s : String} :
    n.reference? = some s ↔ ∃ es, n = .map es ∧ Entries.at? "$ref" es = some (.str s) := by
  constructor
  · intro here
    unfold reference? at here
    split at here
    · rename_i es
      split at here
      · rename_i there
        cases here
        exact ⟨es, rfl, there⟩
      · contradiction
    · contradiction
  · rintro ⟨es, same, there⟩
    subst same
    simp [reference?, there]

end Node

namespace Reference

def onward (parts : Parts) : Node → List Node
  | .link i => parts[i]?.toList
  | n => n.children

abbrev Reaches (parts : Parts) : Node → Node → Prop := ReflTransGen fun n m => m ∈ onward parts n

theorem onwardChildren {parts : Parts} {n : Node} (plain : ∀ i, n ≠ .link i) :
    onward parts n = n.children := by
  cases n with
  | link i => exact absurd rfl (plain i)
  | _ => rfl

inductive Search (parts : Parts) : List Nat → List Node → Option String → Prop
  | done {seen} : Search parts seen [] none
  | found {seen stack n s} (here : n.reference? = some s) : Search parts seen (n :: stack) (some s)
  | inside {seen stack n found} (free : n.reference? = none) (plain : ∀ i, n ≠ .link i)
      (rest : Search parts seen (n.children.reverse ++ stack) found) :
      Search parts seen (n :: stack) found
  | row {seen stack i row found} (there : parts[i]? = some row) (new : i ∉ seen)
      (rest : Search parts (i :: seen) (row :: stack) found) :
      Search parts seen (.link i :: stack) found
  | past {seen stack i found} (behind : i ∈ seen ∨ parts[i]? = none)
      (rest : Search parts seen stack found) : Search parts seen (.link i :: stack) found

variable {parts : Parts} {seen : List Nat} {stack : List Node} {i : Nat} {found : Option String}

theorem searchOnce {found' : Option String} (run : Search parts seen stack found)
    (run' : Search parts seen stack found') : found = found' := by
  induction run generalizing found' with
  | done =>
    cases run'
    rfl
  | found here =>
    cases run' with
    | found here' => exact here.symm.trans here'
    | inside none _ _ => rw [none] at here; contradiction
    | row _ _ _ => contradiction
    | past _ _ => contradiction
  | inside none plain _ ih =>
    cases run' with
    | found here => rw [none] at here; contradiction
    | inside _ _ rest => exact ih rest
    | row _ _ _ => exact absurd rfl (plain _)
    | past _ _ => exact absurd rfl (plain _)
  | row there new _ ih =>
    cases run' with
    | found here => contradiction
    | inside _ plain _ => exact absurd rfl (plain _)
    | row there' _ rest =>
      cases there.symm.trans there'
      exact ih rest
    | past behind _ =>
      rcases behind with old | none
      · exact absurd old new
      · rw [none] at there
        contradiction
  | past behind _ ih =>
    cases run' with
    | found here => contradiction
    | inside _ plain _ => exact absurd rfl (plain _)
    | row there new _ =>
      rcases behind with old | none
      · exact absurd old new
      · rw [none] at there
        contradiction
    | past _ rest => exact ih rest

def unseen (parts : Parts) (seen : List Nat) : Nat :=
  ∑ i ∈ Finset.range parts.length \ seen.toFinset, (parts[i]?.map Node.weight).getD 0

theorem unseenNew {row : Node} (there : parts[i]? = some row) (new : i ∉ seen) :
    row.weight + unseen parts (i :: seen) = unseen parts seen := by
  have bound : i < parts.length := (List.getElem?_eq_some_iff.mp there).1
  have open_ : i ∈ Finset.range parts.length \ seen.toFinset := by simp [bound, new]
  have taken := Finset.add_sum_erase _ (fun i => (parts[i]?.map Node.weight).getD 0) open_
  rw [unseen, unseen, List.toFinset_cons, Finset.sdiff_insert, ← taken, there]
  rfl

theorem unseenNone (parts : Parts) : unseen parts [] = Node.weightList parts := by
  rw [unseen, List.toFinset_nil, Finset.sdiff_empty]
  induction parts with
  | nil => rfl
  | cons row rest ih =>
    rw [List.length_cons, Finset.sum_range_succ', Node.weightList, ← ih, Nat.add_comm]
    simp

-- Every step looks at a value, and what it is followed by weighs less in all.
theorem searchEnds {fuel : Nat} (enough : Node.weightList stack + unseen parts seen < fuel) :
    Search parts seen stack (remainingFrom parts fuel seen stack) := by
  induction fuel generalizing seen stack with
  | zero => exact absurd enough (Nat.not_lt_zero _)
  | succ fuel ih =>
    cases stack with
    | nil => exact .done
    | cons n stack =>
      rw [Node.weightList] at enough
      have inner := n.childrenWeight
      have below : Node.weightList (n.children.reverse ++ stack) + unseen parts seen < fuel := by
        simp only [Node.weightListSum, List.map_append, List.map_reverse, List.sum_append,
          List.sum_reverse] at inner enough ⊢
        omega
      cases n with
      | link i =>
        rw [remainingFrom]
        have above : Node.weightList stack + unseen parts seen < fuel := below
        split
        · rename_i row there
          split
          · rename_i old
            exact .past (.inl (by simpa using old)) (ih above)
          · rename_i new
            have new : i ∉ seen := by simpa using new
            have taken := unseenNew there new
            refine .row there new (ih ?_)
            rw [Node.weightList]
            simp only [Node.weight] at enough
            omega
        · rename_i none
          exact .past (.inr none) (ih above)
      | map entries =>
        rw [remainingFrom]
        split
        · rename_i here
          exact .found here
        · rename_i none
          exact .inside none (by simp) (ih below)
      | list items =>
        rw [remainingFrom]
        exact .inside rfl (by simp) (ih below)
      | _ => exact .inside rfl (by simp) (ih below)

theorem searchSound (run : Search parts seen stack found) {s : String} (told : found = some s) :
    ∃ n ∈ stack, ∃ m, Reaches parts n m ∧ m.reference? = some s := by
  induction run with
  | done => contradiction
  | @found _ _ n _ here => exact ⟨n, List.mem_cons_self, n, .refl, here.trans told⟩
  | @inside _ stack n _ _ plain _ ih =>
    obtain ⟨c, member, m, reach, here⟩ := ih told
    rcases List.mem_append.mp member with child | later
    · rw [List.mem_reverse, ← onwardChildren plain] at child
      exact ⟨n, List.mem_cons_self, m, .head child reach, here⟩
    · exact ⟨c, List.mem_cons_of_mem _ later, m, reach, here⟩
  | @row _ _ i row _ there _ _ ih =>
    obtain ⟨c, member, m, reach, here⟩ := ih told
    rcases List.mem_cons.mp member with same | later
    · have entered : row ∈ onward parts (.link i) := by simp [onward, there]
      exact ⟨.link i, List.mem_cons_self, m, .head entered (same ▸ reach), here⟩
    · exact ⟨c, List.mem_cons_of_mem _ later, m, reach, here⟩
  | past _ _ ih =>
    obtain ⟨c, member, rest⟩ := ih told
    exact ⟨c, List.mem_cons_of_mem _ member, rest⟩

structure Covered (parts : Parts) (seen : List Nat) (stack : List Node) (looked : Node → Prop) :
    Prop where
  pending : ∀ n ∈ stack, looked n
  free : ∀ n, looked n → n.reference? = none
  closed : ∀ n, looked n → ∀ m ∈ onward parts n, looked m ∨ ∃ i ∈ seen, parts[i]? = some m

theorem Covered.before {seen' : List Nat} {stack' : List Node} {looked : Node → Prop} {n : Node}
    (covered : Covered parts seen' stack' looked) (free : n.reference? = none)
    (kept : ∀ m ∈ stack, m ∈ stack')
    (own : ∀ m ∈ onward parts n, m ∈ stack' ∨ ∃ i ∈ seen, parts[i]? = some m)
    (rows : ∀ i ∈ seen', i ∈ seen ∨ ∀ row, parts[i]? = some row → row ∈ stack') :
    Covered parts seen (n :: stack) fun m => m = n ∨ looked m := by
  constructor
  · intro m member
    rcases List.mem_cons.mp member with same | later
    · exact .inl same
    · exact .inr (covered.pending m (kept m later))
  · intro m there
    rcases there with same | there
    · exact same ▸ free
    · exact covered.free m there
  · intro k there m member
    rcases there with same | there
    · rcases own m (same ▸ member) with ahead | old
      · exact .inl (.inr (covered.pending m ahead))
      · exact .inr old
    · rcases covered.closed k there m member with inside | ⟨i, old, row⟩
      · exact .inl (.inr inside)
      · rcases rows i old with old | ahead
        · exact .inr ⟨i, old, row⟩
        · exact .inl (.inr (covered.pending m (ahead m row)))

theorem searchCovers (run : Search parts seen stack found) (told : found = none) :
    ∃ looked, Covered parts seen stack looked := by
  induction run with
  | done => exact ⟨fun _ => False, nofun, nofun, nofun⟩
  | found _ => contradiction
  | @inside seen stack n _ free plain _ ih =>
    obtain ⟨looked, covered⟩ := ih told
    have own : ∀ m ∈ onward parts n, m ∈ n.children.reverse ++ stack := by
      intro m member
      rw [onwardChildren plain] at member
      exact List.mem_append_left _ (List.mem_reverse.mpr member)
    exact ⟨_, covered.before free (fun m => List.mem_append_right _)
      (fun m member => .inl (own m member)) fun i old => .inl old⟩
  | @row seen stack i row _ there new _ ih =>
    obtain ⟨looked, covered⟩ := ih told
    have own : ∀ m, parts[i]? = some m → m ∈ row :: stack := by
      intro m here
      cases there.symm.trans here
      exact List.mem_cons_self
    refine ⟨_, covered.before rfl (fun m => List.mem_cons_of_mem _) ?_ ?_⟩
    · intro m member
      exact .inl (own m (by simpa [onward] using member))
    · intro j old
      rcases List.mem_cons.mp old with same | before
      · exact .inr (same ▸ own)
      · exact .inl before
  | @past seen stack i _ behind _ ih =>
    obtain ⟨looked, covered⟩ := ih told
    refine ⟨_, covered.before rfl (fun m => id) ?_ fun j old => .inl old⟩
    intro m member
    have here : parts[i]? = some m := by simpa [onward] using member
    rcases behind with old | none
    · exact .inr ⟨i, old, here⟩
    · rw [none] at here
      contradiction

theorem searchComplete {n m : Node} (run : Search parts [] [n] none) (reach : Reaches parts n m) :
    m.reference? = none := by
  obtain ⟨looked, covered⟩ := searchCovers run rfl
  have there : looked m := by
    induction reach with
    | refl => exact covered.pending n List.mem_cons_self
    | @tail k m _ step ih =>
      rcases covered.closed k ih m step with inside | ⟨i, old, _⟩
      · exact inside
      · cases old
  exact covered.free m there

-- The search ends, and it ends without a reference just if no map that the document leads to is one.
theorem remainingExact (d : Document) :
    (∀ found, Search d.parts [] [d.root] found ↔ found = remaining? d) ∧
    (remaining? d = none ↔ ∀ es, Reaches d.parts d.root (.map es) →
      ∀ s, Entries.at? "$ref" es ≠ some (.str s)) ∧
    ∀ s, remaining? d = some s → ∃ es, Reaches d.parts d.root (.map es) ∧
      Entries.at? "$ref" es = some (.str s) := by
  have enough : Node.weightList [d.root] + unseen d.parts [] < d.parts.depth d.root := by
    rw [unseenNone, Node.weightList, Node.weightList, Parts.depth]
    omega
  have run : Search d.parts [] [d.root] (remaining? d) := searchEnds enough
  have sound (s : String) (told : remaining? d = some s) : ∃ es,
      Reaches d.parts d.root (.map es) ∧ Entries.at? "$ref" es = some (.str s) := by
    obtain ⟨n, member, m, reach, here⟩ := searchSound run told
    obtain ⟨es, rfl, there⟩ := Node.referenceIff.mp here
    cases List.mem_singleton.mp member
    exact ⟨es, reach, there⟩
  refine ⟨fun found => ⟨fun run' => searchOnce run' run, fun same => same ▸ run⟩, ⟨?_, ?_⟩, sound⟩
  · intro none es reach s there
    have free := searchComplete (none ▸ run) reach
    rw [Node.referenceIff.mpr ⟨es, rfl, there⟩] at free
    contradiction
  · intro free
    cases told : remaining? d with
    | none => rfl
    | some s =>
      obtain ⟨es, reach, there⟩ := sound s told
      exact absurd there (free es reach s)

example : remaining? ⟨.link 0, [.object [("$ref", .link 0), ("a", .list [.link 0,
    .object [("$ref", .str "#/x")]])]]⟩ = some "#/x" := rfl

end Reference
end ClientGen
