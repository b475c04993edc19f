import ClientGen.Resource
import ClientGen.Trail

/-! Grouping the operations of a document into resources. Paths are gone through in the order of
the document and the methods of a path in a fixed order; a group is a resource when a component
schema has its name. -/
namespace ClientGen

def methodKeys : List String :=
  ["get", "put", "post", "delete", "options", "head", "patch", "trace"]

structure Tagged where
  operation : Operation
  resource : Node
  deriving Repr, Inhabited

abbrev Groups := List (Node × List Operation)

namespace Grouping

def paths (parts : Parts) (spec : Node) : Except Fault Node := do
  return parts.orElse (← parts.field spec "paths") (.map [])

def schemas (parts : Parts) (spec : Node) : Except Fault Node := do
  let components := parts.orElse (← parts.field spec "components") (.map [])
  return parts.orElse (← parts.field components "schemas") (.map [])

variable (parts : Parts)

def upperText (s : String) : String := String.ofList (Text.upper s.toList)

def pathText : Node → Except Fault String
  | .str s => .ok s
  | _ => .error .wrongKind

theorem pathTextShown {path : Node} {s : String} (read : pathText path = .ok s) :
    path = .str s := by
  cases path <;> simp_all [pathText]

def tagged (path item : Node) (method : String) : Report (Option Tagged) := do
  let raw ← parts.field item method
  if !parts.holds raw then return none
  let path ← pathText path
  let operation ← Operation.ofNode parts path method raw
  let name ← Resource.nameOf parts raw
  let resource := parts.close (parts.orElse name (.str sharedResource))
  Trail.give (.grouped (upperText method) path resource.plainText (parts.plainText operation.id))
  if resource.hashable then return some ⟨operation, resource⟩ else throw .wrongKind

def taggedMethods (path item : Node) : List String → Report (List Tagged)
  | [] => pure []
  | method :: rest => do
    let first ← tagged parts path item method
    return first.toList ++ (← taggedMethods path item rest)

def taggedPaths : List (Node × Node) → Report (List Tagged)
  | [] => pure []
  | (path, item) :: rest => do
    let item ← parts.refuseReference item
    let item := parts.orElse item (.map [])
    let first ← taggedMethods parts path item methodKeys
    return first ++ (← taggedPaths rest)

def insert (t : Tagged) : Groups → Groups
  | [] => [(t.resource, [t.operation])]
  | (name, operations) :: rest =>
    if t.resource.same name then (name, operations ++ [t.operation]) :: rest
    else (name, operations) :: insert t rest

def collect (ts : List Tagged) : Groups := ts.foldl (fun groups t => insert t groups) []

def groups (root : Node) : Report Groups := do
  let declared ← parts.entries (← paths parts root)
  return collect (← taggedPaths parts declared)

def isKnown (registry schemas name : Node) : Except Fault Bool := do
  if ← parts.contains registry name then parts.contains schemas name else return false

def resources (registry schemas : Node) : Groups → Report (List Resource)
  | [] => pure []
  | (name, operations) :: rest => do
    if ← isKnown parts registry schemas name then
      let schema ← parts.refuseReference (← parts.lookup schemas name)
      return ⟨name, schema, operations⟩ :: (← resources registry schemas rest)
    else
      Trail.give (.dropped operations.length name.quotedText)
      resources registry schemas rest

/-- The resources of a document. `registry` decides which groups become resources; without it the
document's own component schemas do. -/
def build (d : Document) (registry : Option Node) : Report (List Resource) := do
  let own ← schemas d.parts d.root
  let groups ← groups d.parts d.root
  let found ← resources d.parts (registry.getD own) own groups
  Trail.give (.found found.length)
  return found

end Grouping
end ClientGen
