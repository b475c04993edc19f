import ClientGen.Reference.Library

/-! What a reference denotes. Places of a document are named by the way to them, and a reference
denotes the place that its pointer leads to in the document that it cites; where the way leads
through another reference it goes on in what that one denotes. A reference looks up its own keys
where its pointer leads through the reference itself. -/
namespace ClientGen.Reference

/-- A document of the library and the numbers of the children to go through from its root on. -/
structure Place where
  volume : Nat
  way : List Nat
  deriving DecidableEq, Repr, Inhabited

def Place.child (p : Place) (i : Nat) : Place := ⟨p.volume, p.way ++ [i]⟩

def Place.origin : Place := ⟨0, []⟩

def valueAlong (n : Node) : List Nat → Node
  | [] => n
  | i :: rest => valueAlong ((childAt? n i).getD .null) rest

def Library.valueAt (library : Library) (p : Place) : Node :=
  valueAlong (library.contentAt p.volume) p.way

inductive Target
  | place (p : Place)
  | character (c : Char)
  deriving DecidableEq, Repr

def Target.step (library : Library) (target : Target) (part : List Char) : Option Target :=
  match target with
  | .place p =>
    (stepInto (library.valueAt p) part).map fun
      | .child i => .place (p.child i)
      | .character c => .character c
  | .character c =>
    (stepInto (.str (String.singleton c)) part).bind fun
      | .child _ => none
      | .character c => some (.character c)

mutual
/-- What the reference at a place denotes; it is never itself a reference. `pending` are the
references on whose account this one is looked up. -/
def denoted (library : Library) : Nat → List Place → Place → Except Fault Target
  | 0, _, _ => .error .endless
  | fuel + 1, pending, here =>
    if pending.contains here then .error .endless
    else match (library.valueAt here).reference? with
      | none => .ok (.place here)
      | some reference => do
        let citation ← library.cite here.volume reference
        let volume ← library.locate citation
        let target ← follow library fuel (here :: pending) here citation
          (pointerParts citation.pointer) (.place ⟨volume, []⟩)
        match target with
        | .character c => return .character c
        | .place p =>
          if p = here then .error (.unresolved citation.reference .selfReference)
          else denoted library fuel (here :: pending) p
def follow (library : Library) : Nat → List Place → Place → Citation → List (List Char) →
    Target → Except Fault Target
  | 0, _, _, _, _, _ => .error .endless
  | _, _, _, _, [], target => .ok target
  | fuel + 1, pending, here, citation, part :: parts, target => do
    let target ← match target with
      | .character c => pure (.character c)
      | .place p => if p = here then pure (.place p) else denoted library fuel pending p
    match target.step library part with
    | none => .error citation.unresolvable
    | some target => follow library fuel pending here citation parts target
end

def Library.steps (library : Library) : Nat :=
  library.foldl (fun n v => (texts v.content).foldl (fun n t => n + t.length + 3) n) 1

end ClientGen.Reference
