import ClientGen.Proofs.Node.Cycles
import ClientGen.Proofs.Reordering.Document

/-! Every document without cycles is related to itself. From there its maps may be reordered one by one,
so that the relation covers whatever can be said in another order. -/
namespace ClientGen.Reordering
open Parts Compile Relation

variable {parts : Parts} {es : Entries}

structure Copied (parts : Parts) (n : Node) : Prop where
  unlinked : ∀ m, ReflTransGen parts.Inside n m → ∀ i, parts.view m ≠ .link i
  unpaired : ∀ m, ReflTransGen parts.Inside n m → ∀ x y, parts.view m ≠ .pair x y
  keyed : parts.Keyed n

theorem Copied.inner {n m : Node} (copied : Copied parts n) (inside : parts.Inside n m) :
    Copied parts m where
  unlinked k reach := copied.unlinked k (.head inside reach)
  unpaired k reach := copied.unpaired k (.head inside reach)
  keyed := copied.keyed.inner inside

theorem requiresSelf (v : Node) : Requires parts parts v v := by
  have self (x : Node) : SameKey parts parts x x := ⟨rfl, fun _ => rfl⟩
  cases holds : parts.holds v with
  | false => exact .nothing holds holds
  | true =>
    cases listed : parts.items v with
    | error fault => exact .unlisted holds holds listed listed
    | ok xs =>
      exact .listed holds holds listed listed (fun x member => ⟨x, member, self x⟩)
        fun x member => ⟨x, member, self x⟩

theorem equalSelf (v : Node) : Equal parts parts v v := rfl

theorem equalLists (vs : List Node) : List.Forall₂ (Equal parts parts) vs vs :=
  List.forall₂_same.mpr fun v _ => equalSelf v

theorem unchangedSelf (v : Node) : Unchanged parts parts v v where
  equal := rfl
  key := ⟨rfl, fun _ => rfl⟩
  items := .ofSame equalLists rfl
  first := .ofSame equalSelf rfl

theorem readsSelf {v : Node} (inner : ∀ role, Reordered parts parts role v v) (reading : Reading) :
    Reads parts parts reading v v := by
  cases reading with
  | as role => exact .as (inner role)
  | plain => exact .plain (unchangedSelf v)
  | names => exact .names (requiresSelf v)
  | truth => exact .truth rfl
  | unread => exact .unread

theorem leafSelf {n : Node} (copied : Copied parts n) (other : (parts.view n).isMap = false)
    (unlisted : ∀ xs, parts.view n ≠ .list xs) : Leaf parts parts n n where
  same := rfl
  equal := rfl
  other := other
  unlinked := copied.unlinked n .refl
  flat xs listed x member := by
    have keyed := copied.keyed n .refl
    have unpaired := copied.unpaired n .refl
    cases shown : parts.view n with
    | list ys => exact absurd shown (unlisted ys)
    | pair a b => exact absurd shown (unpaired a b)
    | map es => simp [shown, Node.isMap] at other
    | set ys =>
      rw [Parts.items, shown] at listed
      cases listed
      rw [shown] at keyed
      exact keyed.1 x member
    | str s =>
      rw [Parts.items, shown] at listed
      cases listed
      obtain ⟨c, _, rfl⟩ := List.mem_map.mp member
      rfl
    | bytes content =>
      rw [Parts.items, shown] at listed
      cases listed
      obtain ⟨b, _, rfl⟩ := List.mem_map.mp member
      rfl
    | _ =>
      rw [Parts.items, shown] at listed
      cases listed

-- Without cycles every document is related to itself, so that its maps may be reordered one by one.
theorem acyclicReordered {n : Node} (copied : Copied parts n) (acyclic : ¬ Cyclic parts.Inside n)
    (role : Role) : Reordered parts parts role n n := by
  have ends := acyclicAcc (insideFew n) acyclic
  clear acyclic
  induction ends generalizing role with
  | intro n _ ih =>
    have inner {m : Node} (member : m ∈ (parts.view n).members) (role : Role) :
        Reordered parts parts role m m := ih m member (copied.inner member) role
    have keyed := copied.keyed n .refl
    by_cases other : (parts.view n).isMap = true
    · obtain ⟨es, shown⟩ : ∃ es, parts.view n = .map es := by
        cases shown : parts.view n <;> simp [shown, Node.isMap] at other
        exact ⟨_, rfl⟩
      rw [shown] at keyed inner
      have matched : Matched parts parts role es es :=
        togetherMatched keyed (List.forall₂_same.mpr fun e member =>
          ⟨rfl, readsSelf (inner (List.mem_map_of_mem member)) _⟩)
      exact matched.reordered shown shown
    · by_cases listed : ∃ xs, parts.view n = .list xs
      · obtain ⟨xs, shown⟩ := listed
        rw [shown] at inner
        refine .list shown shown rfl fun r i x y _ left right => ?_
        cases left.symm.trans right
        exact inner (List.mem_of_getElem? left) r
      · exact .leaf (leafSelf copied (Bool.eq_false_iff.mpr other) fun xs shown => listed ⟨xs, shown⟩)

end ClientGen.Reordering
