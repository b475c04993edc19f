import ClientGen.Node.Parts
import ClientGen.Node.Same
import ClientGen.Yaml.Reader

/-! The value of a YAML document. Collections are made outermost first: each stands empty until all
collections that were met before it are filled, and a fault in one of them comes before the faults
further in. Of equal keys the first gives the place and the last the value; keys have to be
scalars. -/
namespace ClientGen.Yaml

/-- The order in which the items of a set are gone through is the runtime's own. -/
structure SetOrder where
  arrange : List Node → List Node := id
  complete (items : List Node) : (arrange items).Perm items := by exact .refl

/-- Nodes that have been met so far: a scalar by its value, a collection by a row that is empty
until it is filled. Behind the rows of the nodes stand those of single pairs. -/
structure Making where
  graph : Graph
  rows : Array (Option Node)
  pairs : Array Node
  waiting : List Nat
  sets : SetOrder

namespace Making

def isCollection : Node → Bool
  | .list _ | .map _ | .set _ => true
  | _ => false

def stand (m : Making) (v : Nat) : Node :=
  match (m.rows[v]?).getD none with
  | some n => if isCollection n then .link v else n
  | none => .null

def put (m : Making) (v : Nat) (n : Node) : Making :=
  { m with rows := m.rows.setIfInBounds v (some n) }

def await (m : Making) (v : Nat) (empty : Node) : Making :=
  { m.put v empty with waiting := v :: m.waiting }

def scalarKinds : List String :=
  ["null", "bool", "int", "float", "binary", "timestamp", "str"].map standardTag

def scalar (m : Making) (v : Nat) : Result Making := do
  let tag := m.graph.tagOf v
  let text ← m.graph.text v
  match m.graph.contentOf v with
  | .scalar _ => return m.put v (← scalarValue tag text)
  | _ =>
    if tag = standardTag "timestamp" then .error (.fault .wrongKind)
    else return m.put v (← scalarValue tag text)

def meet (m : Making) (v : Nat) : Result Making :=
  if ((m.rows[v]?).getD none).isSome then .ok m
  else
    let tag := m.graph.tagOf v
    if scalarKinds.contains tag then m.scalar v
    else if ["seq", "omap", "pairs"].any fun kind => tag = standardTag kind then
      .ok (m.await v (.list []))
    else if tag = standardTag "map" then .ok (m.await v (.map []))
    else if tag = standardTag "set" then .ok (m.await v (.set []))
    else reject

def meetItems (m : Making) : List Nat → Result Making
  | [] => .ok m
  | v :: rest => do (← m.meet v).meetItems rest

def meetEntries (m : Making) : List (Nat × Nat) → Result Making
  | [] => .ok m
  | (k, v) :: rest => do
    let m ← m.meet k
    if !(m.stand k).hashable then reject
    (← m.meet v).meetEntries rest

def meetPairs (m : Making) : List Nat → List Node → Result (List Node × Making)
  | [], done => .ok (done.reverse, m)
  | v :: rest, done =>
    match m.graph.entriesOf? v with
    | some [(k, w)] => do
      let m ← m.meet k
      let m ← m.meet w
      let pair := Node.link (m.rows.size + m.pairs.size)
      { m with pairs := m.pairs.push (.pair (m.stand k) (m.stand w)) }.meetPairs rest (pair :: done)
    | _ => reject

def entries (m : Making) (es : List (Nat × Nat)) : Entries :=
  Node.fromPairs (es.map fun e => (m.stand e.1, m.stand e.2))

def fill (m : Making) (v : Nat) : Result Making := do
  let tag := m.graph.tagOf v
  if tag = standardTag "seq" then
    match m.graph.contentOf v with
    | .sequence items => do
      let m ← m.meetItems items
      return m.put v (.list (items.map m.stand))
    | _ => reject
  else if tag = standardTag "omap" ∨ tag = standardTag "pairs" then
    match m.graph.contentOf v with
    | .sequence items => do
      let (pairs, m) ← m.meetPairs items []
      return m.put v (.list pairs)
    | _ => reject
  else do
    let m := { m with graph := ← m.graph.flattened v }
    match m.graph.entriesOf? v with
    | some es => do
      let m ← m.meetEntries es
      let entries := m.entries es
      return m.put v
        (if tag = standardTag "set" then .set (m.sets.arrange (entries.map (·.1)))
          else .map entries)
    | none => reject

def fillAll : Nat → Making → Result Making
  | 0, m => .ok m
  | generations + 1, m =>
    if m.waiting.isEmpty then .ok m
    else do
      fillAll generations
        (← m.waiting.reverse.foldlM (fun m v => m.fill v) { m with waiting := [] })

def table (m : Making) : Parts := (m.rows.toList.map (·.getD .null)) ++ m.pairs.toList

end Making

/-- The closed value of a row. A collection met again inside itself is `enclosing`; inside a pair,
collections around the outermost pair are not the same as what is met there. -/
def closedAt (rows : Parts) : Nat → Bool → List (Option Nat) → Node → Node
  | 0, _, _, n => n
  | fuel + 1, inPair, around, .link i =>
    match around.findIdx? (· = some i) with
    | some level => .enclosing (level + 1)
    | none =>
      match rows.view (.link i) with
      | .pair a b =>
        let around := some i :: if inPair then around else around.map fun _ => none
        .pair (closedAt rows fuel true around a) (closedAt rows fuel true around b)
      | .list items => .list (items.map (closedAt rows fuel inPair (some i :: around)))
      | .map entries =>
        .map (entries.map fun e => (e.1, closedAt rows fuel inPair (some i :: around) e.2))
      | n => n
  | _ + 1, _, _, n => n

def read (s : List Char) (levels : Levels := none) (sets : SetOrder := {}) : Result Node := do
  match ← Reader.document (← tokens s) levels with
  | none => return .null
  | some (graph, v) =>
    let m : Making := ⟨graph, Array.replicate graph.size none, #[], [], sets⟩
    let m ← Making.fillAll (graph.size + 1) (← m.meet v)
    return closedAt m.table (2 * m.table.length + 2) false [] (m.stand v)

end ClientGen.Yaml
