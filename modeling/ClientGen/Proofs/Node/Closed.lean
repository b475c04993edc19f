import ClientGen.Schema
import ClientGen.Proofs.Node.Formed

/-! What a closed value tells of the value that it stands for: its text, whether it holds, and whether
it is a map. So values of two documents agree in all of this when they stand for one closed value. -/
namespace ClientGen

namespace Node

def isNull : Node → Bool
  | .null => true
  | _ => false

def isMap : Node → Bool
  | .map _ => true
  | _ => false

end Node

namespace Parts

theorem closeShown (parts : Parts) (n : Node) :
    ∃ inner, parts.close n = closeInside inner (parts.view n) := by
  have some : depth parts n = (Node.weightList parts + n.weight) + 1 := rfl
  unfold close
  rw [some]
  generalize Node.weightList parts + n.weight = fuel
  cases n with
  | link i =>
    rw [closeAt]
    exact ⟨_, rfl⟩
  | _ => exact ⟨closeAt parts fuel [none], rfl⟩

section Inside

variable (inner : Node → Node) (n : Node)

theorem insideText : (closeInside inner n).text? = n.text? := by cases n <;> rfl

theorem insideNull : (closeInside inner n).isNull = n.isNull := by cases n <;> rfl

theorem insideMap : (closeInside inner n).isMap = n.isMap := by cases n <;> rfl

theorem insideHolds : (closeInside inner n).holds = n.holds := by
  cases n <;> simp [closeInside, Node.holds]

end Inside

def Equal (parts parts' : Parts) (a b : Node) : Prop := parts.close a = parts'.close b

variable {parts parts' : Parts} {a b : Node}

theorem equalBoth {β : Type} {tells : Node → β}
    (kept : ∀ inner n, tells (closeInside inner n) = tells n) (equal : Equal parts parts' a b) :
    tells (parts.view a) = tells (parts'.view b) := by
  obtain ⟨inner, shown⟩ := closeShown parts a
  obtain ⟨inner', shown'⟩ := closeShown parts' b
  rw [← kept inner, ← shown, equal, shown', kept]

theorem equalText (equal : Equal parts parts' a b) :
    (parts.view a).text? = (parts'.view b).text? := equalBoth insideText equal

theorem equalNull (equal : Equal parts parts' a b) :
    (parts.view a).isNull = (parts'.view b).isNull := equalBoth insideNull equal

theorem equalMap (equal : Equal parts parts' a b) :
    (parts.view a).isMap = (parts'.view b).isMap := equalBoth insideMap equal

theorem equalHolds (equal : Equal parts parts' a b) : parts.holds a = parts'.holds b :=
  equalBoth insideHolds equal

theorem closeUsable (parts : Parts) {n : Node} (usable : n.hashable = true) : parts.close n = n :=
  closeAtUsable _ _ usable

theorem viewUsable (parts : Parts) {n : Node} (usable : n.hashable = true) : parts.view n = n := by
  cases n <;> first | rfl | simp [Node.hashable] at usable

end Parts
end ClientGen
