import ClientGen.TypeRef
import ClientGen.Naming

/-! Compiling a schema to a type reference. Object schemas become record types, which are handed out
when they are complete, the inner before the outer. A record is named by its title, or else by the
chain of names that leads to it; a titled record starts a new chain for what lies inside. An object
that carries the name of another component is not compiled but taken as imported. -/
namespace ClientGen

namespace Compile

variable (parts : Parts)

def formatName (name : List Char) : String := String.ofList (name.filter Text.isAsciiWord)

def unsupported (kind : Node) : Fault :=
  if (parts.close kind).writable then .unsupportedType (parts.quotedText kind) else .longInteger

theorem unsupportedTold (kind : Node) :
    (∃ shown, unsupported parts kind = .unsupportedType shown) ∨
      unsupported parts kind = .longInteger := by
  unfold unsupported
  split
  · exact .inl ⟨_, rfl⟩
  · exact .inr rfl

def primitive (kind : Node) : Except Fault TypeRef :=
  match parts.view kind with
  | .str "string" => .ok .text
  | .str "number" => .ok .number
  | .str "boolean" => .ok .boolean
  | _ => .error (unsupported parts kind)

def nameText (fault : Fault) (n : Node) : Except Fault (List Char) :=
  match parts.view n with
  | .str s => .ok s.toList
  | _ => .error fault

def chainText : List Node → Except Fault (List Char)
  | [] => .ok []
  | n :: rest => do
    let first ← nameText parts .wrongKind n
    return first ++ (← chainText rest)

def titleName (entries : Entries) : Except Fault (Option (List Char)) := do
  let title := (Entries.at? "title" entries).getD .null
  if parts.holds title then
    let name := Naming.typeName (← nameText parts .notAnObject title)
    return if name.isEmpty then none else some name
  else return none

def requiredKeys (entries : Entries) : Except Fault (List Node) := do
  let required := (Entries.at? "required" entries).getD .null
  if parts.holds required then
    let keys := (← parts.items required).map parts.view
    if keys.all Node.hashable then return keys else .error .wrongKind
  else return []

def isForeign (owner : Node) (entries : Entries) : Bool :=
  let origin := (Entries.at? originKey entries).getD .null
  parts.holds origin && !parts.same origin owner

abbrev Compiled := Trail (Definition TypeRef)

def fields (compile : List Node → Node → Compiled TypeRef) (chain : List Node)
    (required : List Node) : List (Node × Node) → Compiled (List (Field TypeRef))
  | [] => pure []
  | (name, schema) :: rest => do
    let schema ← parts.refuseReference schema
    let type ← compile (chain ++ [name]) schema
    let comment ← parts.field schema "description"
    let field : Field TypeRef :=
      { name := name, type := type, isOptional := !required.any fun k => name.same k,
        comment := parts.close comment, readonly := true }
    return field :: (← fields compile chain required rest)

def properties (entries : Entries) : Except Fault Entries :=
  parts.entries (parts.orElse ((Entries.at? "properties" entries).getD .null) (.map []))

def ownName (title : Option (List Char)) (chain : List Node) : Except Fault (List Char) :=
  match title with
  | some t => .ok t
  | none => chainText parts chain

def innerChain (title : Option (List Char)) (chain : List Node) : List Node :=
  match title with
  | some t => [.str (String.ofList t)]
  | none => chain

def record (compile : List Node → Node → Compiled TypeRef) (owner : Node) (chain : List Node)
    (entries : Entries) : Compiled TypeRef := do
  if isForeign parts owner entries then return .imported
  let title ← titleName parts entries
  let name ← ownName parts title chain
  let required ← requiredKeys parts entries
  let properties ← properties parts entries
  let fields ← fields parts compile (innerChain title chain) required properties
  Trail.give ⟨formatName name, fields⟩
  return .named (formatName name)

def itemSchema (entries : Entries) : Node :=
  parts.orElse ((Entries.at? "items" entries).getD .null) (.map [])

/-- Compile a schema on behalf of the resource `owner`. Only a schema that contains itself runs out
of fuel. -/
def compileAt (owner : Node) : Nat → List Node → Node → Compiled TypeRef
  | 0, _, _ => Trail.fail .endless
  | fuel + 1, chain, schema => do
    let shape ← parts.shape schema
    let entries ← parts.entries schema
    match shape with
    | .array =>
      let items ← parts.refuseReference (itemSchema parts entries)
      return .array (← compileAt owner fuel chain items)
    | .object => record parts (compileAt owner fuel) owner chain entries
    | .union | .any => return .unknown
    | .primitive kind => primitive parts kind

end Compile

def Parts.compile (parts : Parts) (owner : Node) (chain : List Node) (schema : Node) :
    Compile.Compiled TypeRef :=
  Compile.compileAt parts owner (parts.depth schema) chain schema

end ClientGen
