import ClientGen.Node.Basic

/-! The table of shared parts behind a document, and what its links stand for. -/
namespace ClientGen

/-- Rows that links point to. No row is a link itself. -/
abbrev Parts := List Node

namespace Parts

def view (parts : Parts) : Node → Node
  | .link i => (parts[i]?).getD .null
  | n => n

/-- More than the number of nested containers on any way through the document that does not come
by the same link twice. -/
def depth (parts : Parts) (n : Node) : Nat := Node.weightList parts + n.weight + 1

def closeInside (inner : Node → Node) : Node → Node
  | .set items => .set (items.map inner)
  | .pair a b => .pair (inner a) (inner b)
  | .list items => .list (items.map inner)
  | .map entries => .map (entries.map fun e => (e.1, inner e.2))
  | n => n

/-- Follow every link, except one into a container that is being followed already. `around` tells
for each enclosing container which row it is, the nearest first. -/
def closeAt (parts : Parts) : Nat → List (Option Nat) → Node → Node
  | 0, _, n => n
  | fuel + 1, around, n =>
    match n with
    | .link i =>
      match around.findIdx? (· = some i) with
      | some level => .enclosing (level + 1)
      | none => closeInside (closeAt parts fuel (some i :: around)) (parts.view n)
    | n => closeInside (closeAt parts fuel (none :: around)) n

def close (parts : Parts) (n : Node) : Node := closeAt parts (depth parts n) [] n

def holds (parts : Parts) (n : Node) : Bool := (parts.view n).holds

end Parts
end ClientGen
