import ClientGen.Text.Split

/-! Paths as they are written. Empty and single-dot steps fall away; double dots are kept, because
what they lead to is decided by the tree they are followed in. -/
namespace ClientGen

structure Path where
  anchor : String
  steps : List String
  deriving DecidableEq, Repr, Inhabited

namespace Path

def anchorOf (s : List Char) : String :=
  match s with
  | '/' :: '/' :: '/' :: _ => "/"
  | '/' :: '/' :: _ => "//"
  | '/' :: _ => "/"
  | _ => ""

def parse (text : String) : Path :=
  let pieces := (Text.splitAt '/' text.toList).filter fun p => p ≠ [] ∧ p ≠ ['.']
  ⟨anchorOf text.toList, pieces.map String.ofList⟩

def text (p : Path) : String :=
  if p.anchor.isEmpty && p.steps.isEmpty then "."
  else p.anchor ++ "/".intercalate p.steps

def append (base p : Path) : Path :=
  if p.anchor.isEmpty then ⟨base.anchor, base.steps ++ p.steps⟩ else p

def parent (p : Path) : Path := ⟨p.anchor, p.steps.dropLast⟩

def name (p : Path) : String := p.steps.getLast?.getD ""

end Path
end ClientGen
