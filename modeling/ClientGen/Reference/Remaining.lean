import ClientGen.Document.Basic
import ClientGen.Reference.Pointer

/-! References that are left in a document. The search looks at the last child of a value first and
at no shared part twice, so that it ends also in a document that contains itself. -/
namespace ClientGen.Reference

def remainingFrom (parts : Parts) : Nat → List Nat → List Node → Option String
  | 0, _, _ => none
  | _, _, [] => none
  | fuel + 1, seen, n :: stack =>
    match n with
    | .link i =>
      match parts[i]? with
      | some row =>
        if seen.contains i then remainingFrom parts fuel seen stack
        else remainingFrom parts fuel (i :: seen) (row :: stack)
      | none => remainingFrom parts fuel seen stack
    | .map entries =>
      match (Node.map entries).reference? with
      | some reference => some reference
      | none => remainingFrom parts fuel seen ((entries.map (·.2)).reverse ++ stack)
    | .list items => remainingFrom parts fuel seen (items.reverse ++ stack)
    | _ => remainingFrom parts fuel seen stack

def remaining? (d : Document) : Option String :=
  remainingFrom d.parts (d.parts.depth d.root) [] [d.root]

end ClientGen.Reference
