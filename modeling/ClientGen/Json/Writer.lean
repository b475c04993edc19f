import ClientGen.Node.Basic
import ClientGen.Text.Quoted
import ClientGen.Text.Split
import ClientGen.Fault

/-! Writing a closed value as compact JSON text. Only the kinds of values that JSON knows can be
written, with pairs written as lists, and no whole number that is too long. -/
namespace ClientGen.Json

def scalarText? : Node → Option (List Char)
  | .null => some "null".toList
  | .bool b => some (if b then "true" else "false").toList
  | .int n => some (toString n).toList
  | .float x => some (Decimal.text Decimal.longWords x)
  | _ => none

def keyText (key : Node) : Except Fault (List Char) :=
  match key with
  | .str s => .ok s.toList
  | .int n => if Node.isLong n then .error .longInteger else .ok (toString n).toList
  | key =>
    match scalarText? key with
    | some t => .ok t
    | none => .error .wrongKind

mutual
def write (asciiOnly : Bool) : Node → Except Fault (List Char)
  | .str s => .ok (Text.jsonQuoted asciiOnly s.toList)
  | .list items => do
    return '[' :: Text.joinWith [','] (← writeItems asciiOnly items) ++ [']']
  | .pair a b => do
    return '[' :: Text.joinWith [','] [← write asciiOnly a, ← write asciiOnly b] ++ [']']
  | .map entries => do
    return '\x7b' :: Text.joinWith [','] (← writeMembers asciiOnly entries) ++ ['\x7d']
  | .enclosing _ => .error .invalidValue
  | .null => .ok "null".toList
  | .bool b => .ok (if b then "true" else "false").toList
  | .int n => if Node.isLong n then .error .longInteger else .ok (toString n).toList
  | .float x => .ok (Decimal.text Decimal.longWords x)
  | _ => .error .wrongKind
termination_by structural n => n
def writeItems (asciiOnly : Bool) : List Node → Except Fault (List (List Char))
  | [] => .ok []
  | n :: rest => do
    let first ← write asciiOnly n
    return first :: (← writeItems asciiOnly rest)
termination_by structural n => n
def writeMembers (asciiOnly : Bool) : List (Node × Node) → Except Fault (List (List Char))
  | [] => .ok []
  | (k, v) :: rest => do
    let name ← keyText k
    let value ← write asciiOnly v
    return (Text.jsonQuoted asciiOnly name ++ ':' :: value) :: (← writeMembers asciiOnly rest)
termination_by structural n => n
end

def compact (n : Node) : Except Fault String := do return String.ofList (← write false n)

end ClientGen.Json
