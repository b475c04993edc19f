import ClientGen.Calendar

/-! Document values. A document read from text is a tree. In a document whose references have been
inlined, every part that some reference denotes is kept once in a table and stands as a `link` to
its row wherever it occurs, so a document may share parts and may contain itself. A closed value
has no links: there, `enclosing n` stands for the container `n` levels further out. -/
namespace ClientGen

inductive Node
  | null
  | bool (b : Bool)
  | int (n : Int)
  | float (x : Float)
  | str (s : String)
  | date (d : Date)
  | datetime (t : DateTime)
  | bytes (content : List UInt8)
  | set (items : List Node)
  | pair (first second : Node)
  | list (items : List Node)
  | map (entries : List (Node × Node))
  | link (part : Nat)
  | enclosing (level : Nat)
  deriving Repr, Inhabited

abbrev Entries := List (Node × Node)

def Entries.at? (key : String) : Entries → Option Node
  | [] => none
  | (k, v) :: rest =>
    match k with
    | .str s => if s = key then some v else Entries.at? key rest
    | _ => Entries.at? key rest

namespace Node

def object (fields : List (String × Node)) : Node :=
  .map (fields.map fun f => (.str f.1, f.2))

def text? : Node → Option String
  | .str s => some s
  | _ => none

mutual
def weight : Node → Nat
  | .set items => 1 + weightList items
  | .list items => 1 + weightList items
  | .pair a b => 1 + a.weight + b.weight
  | .map entries => 1 + weightEntries entries
  | _ => 1
termination_by structural n => n
def weightList : List Node → Nat
  | [] => 0
  | n :: rest => n.weight + weightList rest
termination_by structural n => n
def weightEntries : List (Node × Node) → Nat
  | [] => 0
  | (k, v) :: rest => k.weight + v.weight + weightEntries rest
termination_by structural n => n
end

def hashable : Node → Bool
  | .set _ | .list _ | .map _ | .link _ | .enclosing _ => false
  | .pair a b => a.hashable && b.hashable
  | _ => true

def holds : Node → Bool
  | .null => false
  | .bool b => b
  | .int n => n != 0
  | .float x => x != 0.0
  | .str s => !s.isEmpty
  | .bytes content => !content.isEmpty
  | .set items => !items.isEmpty
  | .list items => !items.isEmpty
  | .map entries => !entries.isEmpty
  | _ => true

def isLong (n : Int) : Bool := decide (Nat.pow 10 4300 ≤ n.natAbs)

end Node
end ClientGen
