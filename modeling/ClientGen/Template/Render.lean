import ClientGen.Template.Basic
import ClientGen.Template.Filter

/-! What a template renders to, given values for its variables. What is not there may be handed to a
filter, but neither shown nor tested nor gone through. -/
namespace ClientGen.Template

abbrev Scope := List (String × Node)

abbrev Frame := List (String × Value)

def standing? (name : String) : Option Value :=
  match name with
  | "range" | "dict" => some (.thing (.kind name name))
  | "cycler" => some (.thing (.kind "Cycler" "jinja2.utils.Cycler"))
  | "joiner" => some (.thing (.kind "Joiner" "jinja2.utils.Joiner"))
  | "namespace" => some (.thing (.kind "Namespace" "jinja2.utils.Namespace"))
  | "lipsum" => some (.thing .routine)
  | "self" => some (.thing .template)
  | _ => none

def resolve (frame : Frame) (name : String) : Value :=
  ((frame.lookup name).or (standing? name)).getD (.absent (.name name))

def elementAt (v index : Value) : Except Fault Value := do
  match ← v.require, ← index.require with
  | v, .known i => v.element i
  | _, _ => throw .wrongKind

mutual
def Expr.eval (frame : Frame) : Expr → Except Fault Value
  | .name n => .ok (resolve frame n)
  | .constant value => .ok (.known value)
  | .attribute of key => do (← of.eval frame).attribute key
  | .element of index => do
    let v ← of.eval frame
    elementAt v (← index.eval frame)
  | .either a b => do
    let left ← a.eval frame
    if ← left.holds then return left else b.eval frame
  | .both a b => do
    let left ← a.eval frame
    if ← left.holds then b.eval frame else return left
  | .negation a => do
    let holds ← (← a.eval frame).holds
    return .known (.bool (!holds))
  | .choice test yes no => do
    if ← (← test.eval frame).holds then yes.eval frame else no.eval frame
  | .condition test yes line => do
    if ← (← test.eval frame).holds then yes.eval frame else return .nothing line
  | .filtered value filter arguments names => do
    let v ← value.eval frame
    let vs ← Expr.evalList frame arguments
    return .known (← applyFilter filter v vs names)
termination_by structural e => e
def Expr.evalList (frame : Frame) : List Expr → Except Fault (List Value)
  | [] => .ok []
  | e :: rest => do
    let first ← e.eval frame
    return first :: (← Expr.evalList frame rest)
termination_by structural e => e
end

def renderItems (render : Frame → Except Fault (List Char)) (name : String) (frame : Frame)
    (size index : Nat) (previous : Option Node) : List Node → Except Fault (List Char)
  | [] => .ok []
  | item :: rest => do
    let run : LoopRun := ⟨index, size, previous, rest.head?⟩
    let first ← render ((name, .known item) :: ("loop", .loop run) :: frame)
    return first ++ (← renderItems render name frame size (index + 1) (some item) rest)

mutual
def Piece.render (frame : Frame) : Piece → Except Fault (List Char)
  | .text s => .ok s.toList
  | .shown e => do
    let s ← (← e.eval frame).text
    return s.toList
  | .branch test yes no => do
    if ← (← test.eval frame).holds then Piece.renderList frame yes
    else Piece.renderList frame no
  | .loop item range body otherwise => do
    let items ← (← range.eval frame).items
    if items.isEmpty then Piece.renderList frame otherwise
    else
      renderItems (fun frame => Piece.renderList frame body) item frame items.length 0 none items
termination_by structural p => p
def Piece.renderList (frame : Frame) : List Piece → Except Fault (List Char)
  | [] => .ok []
  | p :: rest => do
    let first ← p.render frame
    return first ++ (← Piece.renderList frame rest)
termination_by structural p => p
end

def render (template : List Piece) (scope : Scope) : Except Fault String := do
  if (scope.lookup "self").isSome then throw .wrongKind
  return String.ofList (← Piece.renderList (scope.map fun e => (e.1, .known e.2)) template)

end ClientGen.Template
