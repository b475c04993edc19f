import ClientGen.Node.Parts

/-! A document, with a table of the parts that stand in it more than once. -/
namespace ClientGen

structure Document where
  root : Node
  parts : Parts
  deriving Repr, Inhabited

namespace Document

def plain (n : Node) : Document := ⟨n, []⟩

def close (d : Document) : Node := d.parts.close d.root

end Document
end ClientGen
