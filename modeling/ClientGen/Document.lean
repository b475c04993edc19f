import ClientGen.Reference.Remaining
import ClientGen.Reference.Resolve

/-! A document with its references inlined. Every container that some reference denotes becomes a
row of the table of parts, in the order in which the walk over the document meets the references,
and stands as a link wherever it occurs, at its own place as well. A document that is nothing but a
reference is a value of its own, which shares the containers inside what it denotes. -/
namespace ClientGen

namespace Document
open Reference

mutual
def normal : Node → Node
  | .pair a b => .list [normal a, normal b]
  | .bytes content => .list (content.map fun b => .int b.toNat)
  | .list items => .list (normalList items)
  | .map entries => .map (normalEntries entries)
  | n => n
termination_by structural n => n
def normalList : List Node → List Node
  | [] => []
  | n :: rest => normal n :: normalList rest
termination_by structural n => n
def normalEntries : List (Node × Node) → List (Node × Node)
  | [] => []
  | (k, v) :: rest => (k, normal v) :: normalEntries rest
termination_by structural n => n
end

mutual
def containsItself : Node → Bool
  | .enclosing _ => true
  | .pair a b => containsItself a || containsItself b
  | .list items => containsItselfList items
  | .map entries => containsItselfEntries entries
  | _ => false
termination_by structural n => n
def containsItselfList : List Node → Bool
  | [] => false
  | n :: rest => containsItself n || containsItselfList rest
termination_by structural n => n
def containsItselfEntries : List (Node × Node) → Bool
  | [] => false
  | (_, v) :: rest => containsItself v || containsItselfEntries rest
termination_by structural n => n
end

structure Walk where
  visited : List Place
  references : List (Place × Target)

def childCount : Node → Nat
  | .list items => items.length
  | .map entries => entries.length
  | _ => 0

def walk (library : Library) : Nat → List Place → Walk → Except Fault Walk
  | 0, _, _ => .error .endless
  | _, [], w => .ok w
  | fuel + 1, here :: rest, w =>
    if w.visited.contains here then walk library fuel rest w
    else
      let w := { w with visited := here :: w.visited }
      let below := fun (p : Place) => (List.range (childCount (library.valueAt p))).map p.child
      match (library.valueAt here).reference? with
      | none => walk library fuel (below here ++ rest) w
      | some _ => do
        let target ← denoted library library.steps [] here
        let w := { w with references := (here, target) :: w.references }
        match target with
        | .place p => walk library fuel (below p ++ rest) w
        | .character _ => walk library fuel rest w

def librarySize (library : Library) : Nat := library.foldl (fun n v => n + v.content.weight) 1

def walkFuel (library : Library) : Nat := librarySize library * librarySize library + 1

def isContainer : Node → Bool
  | .list _ | .map _ => true
  | _ => false

/-- The containers inside what the document itself denotes, where it is a reference. -/
def sharedPlaces (library : Library) (references : List (Place × Target)) : List Place :=
  match references.lookup .origin with
  | some (.place p) => ((List.range (childCount (library.valueAt p))).map p.child).filter
      fun c => (library.valueAt c).reference?.isNone
  | _ => []

def denotedPlaces (references : List (Place × Target)) : List Place :=
  references.filterMap fun r => match r.2 with
    | .place p => some p
    | .character _ => none

def rowPlaces (library : Library) (references : List (Place × Target)) : List Place :=
  (denotedPlaces references.reverse ++ sharedPlaces library references).foldl (fun rows p =>
    if isContainer (library.valueAt p) && !rows.contains p then rows ++ [p] else rows) []

def contents (library : Library) (child : Place → Node) (p : Place) : Node :=
  match library.valueAt p with
  | .list items => .list ((List.range items.length).map fun i => child (p.child i))
  | .map entries =>
    .map ((List.range entries.length).zipWith (fun i e => (e.1, child (p.child i))) entries)
  | n => n

def standing (rows : List Place) (inside : Place → Node) (p : Place) : Node :=
  match rows.idxOf? p with
  | some i => .link i
  | none => inside p

def build (library : Library) (references : List (Place × Target)) (rows : List Place) :
    Nat → Place → Node
  | 0, _ => .null
  | fuel + 1, here =>
    match references.lookup here with
    | some (.character c) => .str (String.singleton c)
    | some (.place p) => standing rows (contents library (build library references rows fuel)) p
    | none => standing rows (contents library (build library references rows fuel)) here

def buildInside (library : Library) (references : List (Place × Target)) (rows : List Place)
    (fuel : Nat) (p : Place) : Node :=
  contents library (build library references rows fuel) p

/-- The document itself. One that is nothing but a reference shows what this denotes and is not
the part denoted. -/
def buildRoot (library : Library) (references : List (Place × Target)) (rows : List Place)
    (fuel : Nat) : Node :=
  match references.lookup .origin with
  | some (.place p) => buildInside library references rows fuel p
  | _ => build library references rows fuel .origin

def assembled (library : Library) (references : List (Place × Target)) : Document :=
  let rows := rowPlaces library references
  let fuel := librarySize library
  ⟨buildRoot library references rows fuel, rows.map (buildInside library references rows fuel)⟩

def dereference (n : Node) : Except Fault Document := do
  if containsItself n then .error .endless
  let library := Library.ofNode (← settled [] (normal n))
  let w ← walk library (walkFuel library) [.origin] ⟨[], []⟩
  match remaining? (assembled library w.references) with
  | some reference => .error (.unexpectedReference reference)
  | none => return assembled library w.references

theorem dereferenced {n : Node} {d : Document} (done : dereference n = .ok d) :
    containsItself n = false ∧ ∃ n' w, settled [] (normal n) = .ok n' ∧
      walk (Library.ofNode n') (walkFuel (Library.ofNode n')) [.origin] ⟨[], []⟩ = .ok w ∧
      d = assembled (Library.ofNode n') w.references ∧ remaining? d = none := by
  unfold dereference at done
  split at done
  · contradiction
  · rename_i apart
    obtain ⟨n', inner, done⟩ := Fault.bindOk done
    obtain ⟨w, walked, done⟩ := Fault.bindOk done
    split at done
    · contradiction
    · rename_i none
      cases done
      exact ⟨by simpa using apart, n', w, inner, walked, rfl, none⟩

end Document
end ClientGen
