import ClientGen.Schema

/-! Content of a request or response, by media type. JSON is preferred for typing, and otherwise
the type declared first. -/
namespace ClientGen

structure MediaType where
  type : Node
  schema : Node
  deriving Repr, Inhabited

structure Content where
  mediaTypes : List MediaType
  deriving Repr, Inhabited

def preferredMediaType : String := "application/json"

namespace Content

variable (parts : Parts)

def declaredSchema (raw : Node) : Except Fault Node := do
  let schema ← parts.field raw "schema"
  if parts.holds schema then parts.refuseReference schema else return .map []

def mediaType (type raw : Node) : Except Fault MediaType := do
  return ⟨type, ← declaredSchema parts raw⟩

def ofEntries : List (Node × Node) → Except Fault (List MediaType)
  | [] => .ok []
  | (type, raw) :: rest => do
    let first ← mediaType parts type raw
    return first :: (← ofEntries rest)

def ofNode (raw : Node) : Except Fault Content := do
  if parts.holds raw then return ⟨← ofEntries parts (← parts.entries raw)⟩ else return ⟨[]⟩

def isPreferred (m : MediaType) : Bool :=
  match m.type with
  | .str s => s == preferredMediaType
  | _ => false

def default? (c : Content) : Option MediaType :=
  match c.mediaTypes.find? isPreferred with
  | some m => some m
  | none => c.mediaTypes.head?

def requireDefault (c : Content) : Except Fault MediaType :=
  match c.default? with
  | some m => .ok m
  | none => .error .noMediaType

def defaultKey (raw : Node) : Except Fault Node := do
  if parts.holds raw then
    if ← parts.contains raw (.str preferredMediaType) then return .str preferredMediaType
    else return (← parts.items raw).head?.getD .null
  else return .null

end Content
end ClientGen
