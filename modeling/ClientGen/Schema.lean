import ClientGen.Document
import ClientGen.Node.Display
import ClientGen.Node.Same

/-! Reading values of a document as objects and schemas. A schema has one of five shapes, the most
specific that applies; a schema taken from the components carries the name it has there. -/
namespace ClientGen

/-- The key under which a schema carries its component name. -/
def originKey : String := "x-openapi-name"

def Entries.has (key : String) (entries : Entries) : Bool := (Entries.at? key entries).isSome

namespace Parts

variable (parts : Parts)

def field (n : Node) (key : String) : Except Fault Node :=
  match parts.view n with
  | .map entries => .ok ((Entries.at? key entries).getD .null)
  | _ => .error .notAnObject

def requiredField (n : Node) (key : String) : Except Fault Node := do
  let value ← parts.field n key
  if parts.holds value then return value else .error (.emptyValue key)

def vendorField (n : Node) (key : String) : Except Fault Node := parts.field n ("x-" ++ key)

def orElse (n default : Node) : Node := if parts.holds n then n else default

def entries (n : Node) : Except Fault Entries :=
  match parts.view n with
  | .map entries => .ok entries
  | _ => .error .notAnObject

def items (n : Node) : Except Fault (List Node) :=
  match parts.view n with
  | .list items => .ok items
  | .set items => .ok items
  | .pair a b => .ok [a, b]
  | .map entries => .ok (entries.map (·.1))
  | .str s => .ok (s.toList.map fun c => .str (String.singleton c))
  | .bytes content => .ok (content.map fun b => .int b.toNat)
  | _ => .error .wrongKind

def size (n : Node) : Except Fault Nat := do return (← parts.items n).length

def same (a b : Node) : Bool := (parts.close a).same (parts.close b)

def isText (n : Node) (s : String) : Bool :=
  match parts.view n with
  | .str t => t == s
  | _ => false

def isContiguous (a b : List Char) : Bool :=
  match b with
  | [] => a.isEmpty
  | _ :: rest => a.isPrefixOf b || isContiguous a rest

def contains (whole key : Node) : Except Fault Bool :=
  match parts.view whole with
  | .map entries => .ok (entries.any fun e => key.same e.1)
  | .list items => .ok (items.any fun i => parts.same key i)
  | .set items => .ok (items.any fun i => parts.same key i)
  | .pair a b => .ok (parts.same key a || parts.same key b)
  | .str s =>
    match key with
    | .str t => .ok (isContiguous t.toList s.toList)
    | _ => .error .wrongKind
  | _ => .error .wrongKind

def index? (size : Nat) (n : Int) : Option Nat :=
  let i := if n < 0 then n + size else n
  if 0 ≤ i ∧ i < size then some i.toNat else none

def position? : Node → Option Int
  | .int n => some n
  | .bool b => some (if b then 1 else 0)
  | _ => none

def lookup (whole key : Node) : Except Fault Node :=
  match parts.view whole with
  | .map entries =>
    if !(parts.view key).hashable then .error .wrongKind
    else match Node.findKey? (parts.view key) entries with
      | some v => .ok v
      | none => .error .missingKey
  | .list items =>
    match position? (parts.view key) with
    | some n => ((index? items.length n).bind fun i => items[i]?).elim (.error .outOfRange) .ok
    | none => .error .wrongKind
  | .str s =>
    match position? (parts.view key) with
    | some n =>
      ((index? s.length n).bind fun i => s.toList[i]?).elim (.error .outOfRange)
        fun c => .ok (.str (String.singleton c))
    | none => .error .wrongKind
  | _ => .error .wrongKind

def plainText (n : Node) : String := (parts.close n).plainText

def quotedText (n : Node) : String := (parts.close n).quotedText

def isReference (n : Node) : Bool :=
  match parts.view n with
  | .map entries => Entries.has "$ref" entries
  | _ => false

def unexpected (target : Node) : Fault :=
  if parts.holds target then
    if (parts.close target).writable then .unexpectedReference (parts.plainText target)
    else .longInteger
  else .unexpectedReference ""

theorem unexpectedTold (target : Node) :
    (∃ text, parts.unexpected target = .unexpectedReference text) ∨
      parts.unexpected target = .longInteger := by
  unfold unexpected
  split
  · split
    · exact .inl ⟨_, rfl⟩
    · exact .inr rfl
  · exact .inl ⟨_, rfl⟩

def refuseReference (n : Node) : Except Fault Node :=
  match parts.view n with
  | .map entries =>
    match Entries.at? "$ref" entries with
    | some target => .error (parts.unexpected target)
    | none => .ok n
  | _ => .ok n

def origin (schema : Node) : Except Fault Node :=
  if parts.holds schema then parts.field schema originKey else .ok .null

end Parts

inductive Shape
  | array
  | object
  | union
  | any
  | primitive (kind : Node)
  deriving Repr

def unionKeys : List String := ["oneOf", "anyOf", "allOf"]

def Shape.ofEntries (parts : Parts) (entries : Entries) : Shape :=
  let declared := (Entries.at? "type" entries).getD .null
  match parts.view declared with
  | .str "array" => .array
  | .str "object" => .object
  | .null =>
    if Entries.has "properties" entries then .object
    else if unionKeys.any fun k => Entries.has k entries then .union
    else .any
  | _ => if unionKeys.any fun k => Entries.has k entries then .union else .primitive declared

def Parts.shape (parts : Parts) (schema : Node) : Except Fault Shape := do
  let schema ← parts.refuseReference schema
  return Shape.ofEntries parts (← parts.entries schema)

end ClientGen
