import ClientGen.Files.Tree
import ClientGen.Proofs.Text.Runs

/-! What stands directly inside a directory. A text that is one name leads from a directory to the
entry of that name, and different names lead to different entries. -/
namespace ClientGen

def Location.child (l : Location) (name : String) : Location := ⟨l.origin, l.names ++ [name]⟩

theorem Location.childInj {l : Location} {a b : String} (same : l.child a = l.child b) : a = b := by
  simpa [child] using same

namespace Path

structure IsName (s : String) : Prop where
  present : s ≠ ""
  notHere : s ≠ "."
  notUp : s ≠ ".."
  single : '/' ∉ s.toList

instance (s : String) : Decidable (IsName s) :=
  decidable_of_iff (s ≠ "" ∧ s ≠ "." ∧ s ≠ ".." ∧ '/' ∉ s.toList)
    ⟨fun ⟨a, b, c, d⟩ => ⟨a, b, c, d⟩, fun ⟨a, b, c, d⟩ => ⟨a, b, c, d⟩⟩

theorem anchorNone {s : List Char} (single : '/' ∉ s) : anchorOf s = "" := by
  unfold anchorOf
  split
  · simp at single
  · simp at single
  · simp at single
  · rfl

theorem parseName {s : String} (name : IsName s) : parse s = ⟨"", [s]⟩ := by
  have whole : Text.splitAt '/' s.toList = [s.toList] := Text.splitAtWhole name.single
  have kept : s.toList ≠ [] ∧ s.toList ≠ ['.'] := by
    refine ⟨fun same => name.present ?_, fun same => name.notHere ?_⟩
    · exact String.toList_inj.mp same
    · exact String.toList_inj.mp same
  simp [parse, anchorNone name.single, whole, kept]

end Path

namespace Files

theorem writtenBelow {directory : Path} {s : String} (name : Path.IsName s) :
    written (directory.append (Path.parse s)) = (written directory).child s := by
  rw [Path.parseName name]
  simp [written, Path.append, originOf, Location.below, Location.child, name.notUp]

end Files
end ClientGen
