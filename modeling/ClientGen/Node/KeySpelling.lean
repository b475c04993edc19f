import ClientGen.Levels
import ClientGen.Node.Same
import ClientGen.Json.Writer

/-! Spelling every key of a document as a text. A number, a truth value or nothing is spelled as in
JSON, and of entries that come to one spelling the first gives the place and the last the value.
Only maps and lists are entered. -/
namespace ClientGen.Node

def spelledKey (key : Node) : Except Fault Node :=
  match key with
  | .str s => .ok (.str s)
  | .int n => if isLong n then .error .longInteger else .ok (.str (toString n))
  | key =>
    match Json.scalarText? key with
    | some t => .ok (.str (String.ofList t))
    | none => .error .wrongKind

def enter (levels : Levels) : Except Fault Levels :=
  match levels.inner? with
  | some inner => .ok inner
  | none => .error .endless

mutual
def spellKeys : Node → (levels : Levels := none) → Except Fault Node
  | .map entries, levels => do
    let entries ← spellKeysEntries entries (← enter levels)
    return .map (fromPairs entries)
  | .list items, levels => do return .list (← spellKeysList items (← enter levels))
  | .enclosing _, _ => .error .endless
  | n, _ => .ok n
termination_by structural n => n
def spellKeysList : List Node → Levels → Except Fault (List Node)
  | [], _ => .ok []
  | n :: rest, levels => do
    let first ← spellKeys n levels
    return first :: (← spellKeysList rest levels)
termination_by structural n => n
def spellKeysEntries : List (Node × Node) → Levels → Except Fault (List (Node × Node))
  | [], _ => .ok []
  | (k, v) :: rest, levels => do
    let key ← spelledKey k
    let value ← spellKeys v levels
    return (key, value) :: (← spellKeysEntries rest levels)
termination_by structural n => n
end

end ClientGen.Node
