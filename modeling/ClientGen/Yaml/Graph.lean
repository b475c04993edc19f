import ClientGen.Yaml.Scalar

/-! The nodes of a YAML document, each under a number of its own. An alias is the number of the node
that it names, so nodes may share parts and may contain themselves. A merge key brings the entries
of other mappings in front of a mapping's own. -/
namespace ClientGen.Yaml

inductive Content
  | scalar (text : String)
  | sequence (items : List Nat)
  | mapping (entries : List (Nat × Nat))
  deriving DecidableEq, Repr, Inhabited

structure Vertex where
  tag : String
  content : Content
  deriving DecidableEq, Repr, Inhabited

abbrev Graph := Array Vertex

namespace Graph

def tagOf (g : Graph) (v : Nat) : String := ((g[v]?).map (·.tag)).getD ""

def contentOf (g : Graph) (v : Nat) : Content := ((g[v]?).map (·.content)).getD (.scalar "")

def setTag (g : Graph) (v : Nat) (tag : String) : Graph :=
  g.setIfInBounds v ⟨tag, g.contentOf v⟩

def setContent (g : Graph) (v : Nat) (content : Content) : Graph :=
  g.setIfInBounds v ⟨g.tagOf v, content⟩

def entriesOf? (g : Graph) (v : Nat) : Option (List (Nat × Nat)) :=
  match g.contentOf v with
  | .mapping entries => some entries
  | _ => none

def entriesOf (g : Graph) (v : Nat) : List (Nat × Nat) := (g.entriesOf? v).getD []

def isTagged (g : Graph) (name : String) (v : Nat) : Bool := g.tagOf v == standardTag name

def mergeCount (g : Graph) : Nat :=
  g.foldl (fun n v => n + match v.content with
    | .mapping entries => entries.countP fun e => g.isTagged "merge" e.1
    | _ => 0) 0

def settleValueKeys (g : Graph) (entries : List (Nat × Nat)) : Graph :=
  entries.foldl
    (fun g e => if g.isTagged "value" e.1 then g.setTag e.1 (standardTag "str") else g) g

/-- Carry out the merge keys of a mapping; `merged` are the entries brought in so far. A merge key
goes away before what it brings in is looked at, so a mapping may even merge itself. -/
def flattenFrom : Nat → Graph → Nat → List (Nat × Nat) → Result Graph
  | 0, _, _, _ => .error (.fault .endless)
  | fuel + 1, g, v, merged =>
    let entries := g.entriesOf v
    match entries.findIdx? fun e => g.isTagged "merge" e.1 with
    | none => .ok ((g.settleValueKeys entries).setContent v (.mapping (merged ++ entries)))
    | some i => do
      let g := g.setContent v (.mapping (entries.eraseIdx i))
      let source := ((entries[i]?).map (·.2)).getD 0
      match g.contentOf source with
      | .mapping _ =>
        let g ← flattenFrom fuel g source []
        flattenFrom fuel g v (merged ++ g.entriesOf source)
      | .sequence items =>
        let (g, parts) ← items.foldlM (fun (done : Graph × List (Nat × Nat)) item =>
          if (done.1.entriesOf? item).isNone then reject
          else do
            let g ← flattenFrom fuel done.1 item []
            return (g, g.entriesOf item ++ done.2)) (g, [])
        flattenFrom fuel g v (merged ++ parts)
      | .scalar _ => reject

def flattened (g : Graph) (v : Nat) : Result Graph :=
  if (g.entriesOf? v).isSome then g.flattenFrom (g.mergeCount + 1) v [] else .ok g

def textFrom (g : Graph) : Nat → Nat → Result String
  | 0, _ => .error (.fault .endless)
  | fuel + 1, v =>
    match g.contentOf v with
    | .scalar text => .ok text
    | .mapping entries =>
      match entries.find? fun e => g.isTagged "value" e.1 with
      | some e => textFrom g fuel e.2
      | none => reject
    | .sequence _ => reject

def text (g : Graph) (v : Nat) : Result String := g.textFrom (g.size + 1) v

end Graph
end ClientGen.Yaml
