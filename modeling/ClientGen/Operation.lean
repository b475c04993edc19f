import ClientGen.Content
import ClientGen.Naming

/-! Operations of a document: a path and a method with parameters, a request and responses. -/
namespace ClientGen

structure Parameter where
  name : Node
  location : Node
  required : Bool
  schema : Node
  description : Node
  deriving Repr, Inhabited

structure Response where
  code : String
  content : Content
  description : Node
  deriving Repr, Inhabited

structure Operation where
  id : Node
  path : String
  method : String
  summary : Node
  description : Node
  tags : List Node
  parameters : List Parameter
  request : Option Content
  responses : List Response
  deriving Repr, Inhabited

def readEach {α β : Type} (read : α → Except Fault β) : List α → Except Fault (List β)
  | [] => .ok []
  | a :: rest => do
    let b ← read a
    return b :: (← readEach read rest)

def Parameter.ofNode (parts : Parts) (raw : Node) : Except Fault Parameter := do
  let raw ← parts.refuseReference raw
  let schema ← parts.field raw "schema"
  let entries ← parts.entries raw
  let name ← match Entries.at? "name" entries with
    | some name => pure name
    | none => .error .missingKey
  let schema ← if parts.holds schema then parts.refuseReference schema else pure (.map [])
  return {
    name := name
    location := (Entries.at? "in" entries).getD (.str "query")
    required := parts.holds ((Entries.at? "required" entries).getD .null)
    schema := schema
    description := (Entries.at? "description" entries).getD .null }

def Parameter.isIn (parts : Parts) (location : String) (p : Parameter) : Bool :=
  parts.isText p.location location

def Response.ofNode (parts : Parts) (code : String) (raw : Node) : Except Fault Response := do
  let raw ← parts.refuseReference raw
  let content ← Content.ofNode parts (← parts.field raw "content")
  return ⟨code, content, ← parts.field raw "description"⟩

namespace Operation

variable (parts : Parts)

def requestOf (raw : Node) : Except Fault (Option Content) := do
  let body ← parts.field raw "requestBody"
  if parts.holds body then
    let content ← parts.field (← parts.refuseReference body) "content"
    return some (← Content.ofNode parts content)
  else return none

def responsesOf (raw : Node) : Except Fault (List Response) := do
  let responses ← parts.field raw "responses"
  let entries ← parts.entries (parts.orElse responses (.map []))
  readEach (fun e => Response.ofNode parts (parts.plainText e.1) e.2) entries

def ofNode (path method : String) (raw : Node) : Except Fault Operation := do
  let declared ← parts.field raw "parameters"
  let parameters ← readEach (Parameter.ofNode parts)
    (← parts.items (parts.orElse declared (.list [])))
  let request ← requestOf parts raw
  let responses ← responsesOf parts raw
  let id ← parts.field raw "operationId"
  let slug := Node.str (String.ofList (Naming.slug path.toList method.toList))
  let tags ← parts.field raw "tags"
  return {
    id := parts.orElse id slug
    path := path
    method := method
    summary := ← parts.field raw "summary"
    description := ← parts.field raw "description"
    tags := ← parts.items (parts.orElse tags (.list []))
    parameters := parameters
    request := request
    responses := responses }

def located (location : String) (o : Operation) : List Parameter :=
  o.parameters.filter (Parameter.isIn parts location)

/-- The response that gives the return type: the first one declared. -/
def defaultResponse (o : Operation) : Except Fault Response :=
  match o.responses with
  | r :: _ => .ok r
  | [] => .error (.noResponse (parts.plainText o.id))

def nameKey (name : Node) : Except Fault Node :=
  let name := parts.view name
  if name.hashable then .ok name else .error .wrongKind

def querySchema (o : Operation) : Except Fault (Option Node) := do
  match o.located parts "query" with
  | [] => return none
  | query =>
    let keys ← readEach (fun p => do return (← nameKey parts p.name, p.schema)) query
    let required := (query.filter (·.required)).map (·.name)
    return some (Node.object [
      ("type", .str "object"),
      ("properties", .map (Node.fromPairs keys)),
      ("required", .list required)])

end Operation
end ClientGen
