import ClientGen.Fault
import ClientGen.Address.Basic
import ClientGen.Json.Reader
import ClientGen.Reference.Pointer
import ClientGen.Text.Integer

/-! The documents that references can lead to. A document has no address of its own, and an address
that comes to nothing means the document itself. Any other document must be spelled out inside its
address, behind `data:`; no other can be reached. A library holds every document that the
references of the first one lead to, each once. -/
namespace ClientGen.Reference

def bareAddress (address : List Char) : List Char :=
  let s := Text.trim address
  let s := match s with
    | '<' :: rest => if rest.getLast? = some '>' then Text.trim rest.dropLast else s
    | s => s
  match s with
  | 'U' :: 'R' :: 'L' :: ':' :: rest => Text.trim rest
  | s => s

def scheme? (address : List Char) : Option (List Char × List Char) :=
  let lead := address.takeWhile (fun c => c ≠ ':' ∧ c ≠ '/')
  match lead, address.drop lead.length with
  | [], _ => none
  | _, ':' :: rest => some (Text.lower lead, rest)
  | _, _ => none

def hasHost (rest : List Char) : Bool :=
  match rest with
  | '/' :: '/' :: c :: _ => !Address.isDelimiter c
  | _ => false

def spelledBytes (rest : List Char) : Except ReferenceFault (List UInt8) :=
  let kind := rest.takeWhile (· ≠ ',')
  match rest.drop kind.length with
  | [] => .error .unmarkedContent
  | _ :: content =>
    let bytes := Text.unescapedBytes content
    if ";base64".toList.isSuffixOf kind then
      match Text.sextetBytes (bytes.map fun b => Char.ofNat b.toNat) with
      | .ok bytes => .ok bytes
      | .error flaw => .error (.badSextets flaw)
    else .ok bytes

def readContent (bytes : List UInt8) : Except ReferenceFault Node :=
  match Text.text bytes with
  | .error u => .error (.undecodable u)
  | .ok s =>
    match Json.readDocument s with
    | .ok n => .ok n
    | .error failure =>
      match failure.problem with
      | .hugeInteger _ => .error (.hugeInteger (failure.message s))
      | _ => .error (.malformed (failure.message s))

def content (address : List Char) : Except ReferenceFault Node := do
  let s := bareAddress address
  match scheme? s with
  | none => .error (.foreignDocument (String.ofList (Text.display s)))
  | some (scheme, rest) =>
    if scheme = "data".toList then readContent (← spelledBytes rest)
    else if scheme = "ftp".toList && !hasHost rest then .error .noHost
    else .error (.foreignScheme (String.ofList scheme))

/-- What a reference cites: its text as seen from the document it stands in, the address of the
cited document as written and in its regular form, and the pointer into that document. -/
structure Citation where
  reference : String
  address : List Char
  key : List Char
  pointer : List Char
  deriving DecidableEq, Repr, Inhabited

def cite? (base : List Char) (reference : String) : Option Citation := do
  let reference ← Address.joined? base reference.toList
  let (address, pointer) ← Address.cutFragment? reference
  let key ← Address.parse? address
  return ⟨String.ofList reference, address, key.text, pointer⟩

def Citation.unresolvable (c : Citation) : Fault :=
  .unresolved c.reference (.unresolvable (String.ofList (Text.display c.pointer)))

def indexOfKey? (key : String) (entries : Entries) : Option Nat :=
  entries.findIdx? fun e => match e.1 with
    | .str s => s = key
    | _ => false

def itemIndex? (size : Nat) (part : List Char) : Option Nat :=
  match Text.integer? 10 part with
  | none => none
  | some n =>
    let i := if n < 0 then n + size else n
    if 0 ≤ i ∧ i < size then some i.toNat else none

inductive Step
  | child (index : Nat)
  | character (c : Char)
  deriving DecidableEq, Repr

def stepInto (n : Node) (part : List Char) : Option Step :=
  match n with
  | .map entries => (indexOfKey? (String.ofList part) entries).map .child
  | .list items => (itemIndex? items.length part).map .child
  | .str s => (itemIndex? s.length part).bind fun i => (s.toList[i]?).map .character
  | _ => none

def childAt? (n : Node) (i : Nat) : Option Node :=
  match n with
  | .list items => items[i]?
  | .map entries => (entries[i]?).map (·.2)
  | _ => none

def valueBehind? (n : Node) : List (List Char) → Option Node
  | [] => some n
  | part :: parts => do
    match ← stepInto n part with
    | .child i => valueBehind? (← childAt? n i) parts
    | .character c => valueBehind? (.str (String.singleton c)) parts

/-- What a reference is that stands where the text of another belongs: it is looked up before the
document around it is there to be cited. -/
def innerValue (base : List Char) (reference : String) : Except Fault Node :=
  match cite? base reference with
  | none => .error .invalidValue
  | some c =>
    match content c.address with
    | .error fault => .error (.unresolved c.reference fault)
    | .ok n =>
      match valueBehind? n (pointerParts c.pointer) with
      | none => .error c.unresolvable
      | some n => .ok n

def settleEntry (base : List Char) (e : Node × Node) : Except Fault (Node × Node) := do
  match e.1, e.2.reference? with
  | .str "$ref", some reference =>
    match ← innerValue base reference with
    | .str s => return (e.1, .str s)
    | _ => return e
  | _, _ => return e

mutual
def settled (base : List Char) : Node → Except Fault Node
  | .list items => do return .list (← settledList base items)
  | .map entries => do
    let entries ← settledEntries base entries
    return .map (← entries.mapM (settleEntry base))
  | n => .ok n
termination_by structural n => n
def settledList (base : List Char) : List Node → Except Fault (List Node)
  | [] => .ok []
  | n :: rest => do
    let first ← settled base n
    return first :: (← settledList base rest)
termination_by structural n => n
def settledEntries (base : List Char) : List (Node × Node) → Except Fault (List (Node × Node))
  | [] => .ok []
  | (k, v) :: rest => do
    let first ← settled base v
    return (k, first) :: (← settledEntries base rest)
termination_by structural n => n
end

mutual
def texts : Node → List String
  | .list items => textsList items
  | .map entries => (Node.map entries).reference?.toList ++ textsEntries entries
  | _ => []
termination_by structural n => n
def textsList : List Node → List String
  | [] => []
  | n :: rest => texts n ++ textsList rest
termination_by structural n => n
def textsEntries : List (Node × Node) → List String
  | [] => []
  | (_, v) :: rest => texts v ++ textsEntries rest
termination_by structural n => n
end

structure Volume where
  address : List Char
  key : List Char
  content : Node
  deriving Repr, Inhabited

abbrev Library := List Volume

def Citation.opened (c : Citation) : Except Fault Volume :=
  match content c.address with
  | .error fault => .error (.unresolved c.reference fault)
  | .ok n => do return ⟨c.address, c.key, ← settled c.address n⟩

namespace Library

def indexOf? (library : Library) (key : List Char) : Option Nat :=
  library.findIdx? (·.key = key)

def contentAt (library : Library) (volume : Nat) : Node :=
  (library[volume]?.map (·.content)).getD .null

def cite (library : Library) (volume : Nat) (reference : String) : Except Fault Citation :=
  match cite? ((library[volume]?.map (·.address)).getD []) reference with
  | some c => .ok c
  | none => .error .invalidValue

def locate (library : Library) (c : Citation) : Except Fault Nat :=
  match library.indexOf? c.key with
  | some i => .ok i
  | none => do
    let _ ← c.opened
    .error .endless

def gather : Nat → List (List Char × String) → Library → Library
  | 0, _, library => library
  | _, [], library => library
  | fuel + 1, (base, reference) :: rest, library =>
    match cite? base reference with
    | none => gather fuel rest library
    | some c =>
      match library.indexOf? c.key, c.opened with
      | none, .ok v =>
        gather fuel (rest ++ (texts v.content).map (v.address, ·)) (library ++ [v])
      | _, _ => gather fuel rest library

/-- A document spelled out inside an address is shorter than the address, so the references still
to be followed get shorter all in all. -/
def gatherFuel (references : List String) : Nat :=
  references.foldl (fun n reference => n + reference.length + 1) 1

def ofNode (n : Node) : Library :=
  gather (gatherFuel (texts n)) ((texts n).map ([], ·)) [⟨[], [], n⟩]

end Library
end ClientGen.Reference
