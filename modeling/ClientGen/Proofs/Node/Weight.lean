import ClientGen.Reference.Library

/-! What lies inside a value weighs less than the value. -/
namespace ClientGen

namespace Node

theorem weightPositive (n : Node) : 0 < n.weight := by
  cases n <;> simp only [weight] <;> omega

theorem itemWeight {n : Node} {ns : List Node} (member : n ∈ ns) : n.weight ≤ weightList ns := by
  induction ns with
  | nil => cases member
  | cons first rest ih =>
    simp only [weightList]
    rcases List.mem_cons.mp member with rfl | later
    · omega
    · exact Nat.le_trans (ih later) (Nat.le_add_left _ _)

theorem valueWeight {k v : Node} {es : List (Node × Node)} (member : (k, v) ∈ es) :
    k.weight + v.weight ≤ weightEntries es := by
  induction es with
  | nil => cases member
  | cons first rest ih =>
    obtain ⟨k', v'⟩ := first
    simp only [weightEntries]
    rcases List.mem_cons.mp member with same | later
    · cases same
      omega
    · exact Nat.le_trans (ih later) (Nat.le_add_left _ _)

end Node

theorem Reference.childWeight {n c : Node} {i : Nat} (found : childAt? n i = some c) :
    c.weight < n.weight := by
  unfold childAt? at found
  split at found
  · have inside := Node.itemWeight (List.mem_of_getElem? found)
    simp only [Node.weight]
    omega
  · obtain ⟨e, there, rfl⟩ := Option.map_eq_some_iff.mp found
    have inside := Node.valueWeight (List.mem_of_getElem? there)
    simp only [Node.weight]
    omega
  · contradiction

end ClientGen
