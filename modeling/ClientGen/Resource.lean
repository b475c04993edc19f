import ClientGen.Operation

/-! The resource an operation belongs to. It is read off the schema of the default response: an
operation that returns a component, or a list envelope of that component, belongs to it. -/
namespace ClientGen

/-- Where operations go whose resource cannot be told. -/
def sharedResource : String := "shared"

structure Resource where
  name : Node
  schema : Node
  operations : List Operation
  deriving Repr, Inhabited

namespace Resource

variable (parts : Parts)

def title (r : Resource) : Except Fault Node := do
  return parts.orElse (← parts.field r.schema "title") r.name

def marksList (enumeration : Node) : Except Fault Bool := do
  if parts.holds enumeration then
    return parts.isText (← parts.lookup enumeration (.int 0)) "list"
  else return false

/-- The item schema of a list envelope, or the schema itself when it is none. An envelope without
an array of data has no item schema. -/
def listItemSchema (schema : Node) : Except Fault (Option Node) := do
  let properties := parts.orElse (← parts.field schema "properties") (.map [])
  let object ← parts.field properties "object"
  if !parts.holds object then return some schema
  let enumeration ← parts.field (← parts.refuseReference object) "enum"
  if !(← marksList parts enumeration) then return some schema
  let data ← parts.field properties "data"
  if !parts.holds data then return none
  let kind ← parts.field (← parts.refuseReference data) "type"
  if !parts.isText kind "array" then return none
  let items ← parts.field data "items"
  return some (← parts.refuseReference (parts.orElse items (.map [])))

def nameOf (operation : Node) : Except Fault Node := do
  let responses := parts.orElse (← parts.field operation "responses") (.map [])
  let response ← parts.field responses "default"
  if !parts.holds response then return .null
  let content ← parts.field (← parts.refuseReference response) "content"
  let key ← Content.defaultKey parts content
  match parts.view key with
  | .null => return .null
  | key =>
    let schema ← parts.field (← parts.lookup content key) "schema"
    if !parts.holds schema then return .null
    match ← listItemSchema parts (← parts.refuseReference schema) with
    | none => return .null
    | some schema => parts.origin schema

end Resource
end ClientGen
