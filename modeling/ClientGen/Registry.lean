import ClientGen.TypeRef

/-! The named types of one resource. A name is unique within a registry and keeps its place; adding
a different definition under it is reported, or refused where the registry is strict. -/
namespace ClientGen

def Field.same (a b : Field String) : Bool :=
  a.name.same b.name && a.type == b.type && a.isOptional == b.isOptional &&
    a.comment.same b.comment && a.readonly == b.readonly

def sameFields : List (Field String) → List (Field String) → Bool
  | [], [] => true
  | a :: as, b :: bs => a.same b && sameFields as bs
  | _, _ => false

def Definition.same (a b : Spelled) : Bool := a.name == b.name && sameFields a.fields b.fields

structure Registry where
  strict : Bool
  types : List Spelled
  deriving Repr, Inhabited

namespace Registry

def empty (strict : Bool) : Registry := ⟨strict, []⟩

def find? (r : Registry) (name : String) : Option Spelled := r.types.find? (·.name == name)

def contains (r : Registry) (name : String) : Bool := (r.find? name).isSome

def size (r : Registry) : Nat := r.types.length

def names (r : Registry) : List String := r.types.map (·.name)

def setType (d : Spelled) : List Spelled → List Spelled
  | [] => [d]
  | t :: rest => if t.name == d.name then d :: rest else t :: setType d rest

theorem findSetType (d : Spelled) (ts : List Spelled) (name : String) :
    (setType d ts).find? (·.name == name) =
      if d.name == name then some d else ts.find? (·.name == name) := by
  induction ts with
  | nil => grind [setType]
  | cons t rest ih =>
    simp only [setType]
    split <;> grind

theorem namesSetType (d : Spelled) (ts : List Spelled) :
    (setType d ts).map (·.name) =
      if d.name ∈ ts.map (·.name) then ts.map (·.name) else ts.map (·.name) ++ [d.name] := by
  induction ts with
  | nil => simp [setType]
  | cons t rest ih =>
    simp only [setType]
    split <;> grind

def differs (r : Registry) (d : Spelled) : Bool :=
  match r.find? d.name with
  | some existing => !existing.same d
  | none => false

def add (r : Registry) (d : Spelled) : Registry × Report Unit :=
  if r.differs d then
    if r.strict then (r, Trail.fail (.typeCollision d.name))
    else (⟨r.strict, setType d r.types⟩, Trail.give (.redefined d.name))
  else (⟨r.strict, setType d r.types⟩, pure ())

def addAll (r : Registry) : List Spelled → Registry × Report Unit
  | [] => (r, pure ())
  | d :: rest =>
    let (r, first) := r.add d
    match first.result with
    | .error _ => (r, first)
    | .ok _ =>
      let (r, others) := r.addAll rest
      (r, ⟨first.given ++ others.given, others.result⟩)

/-- Register what a computation hands out, then end as it does. -/
def absorb {α : Type} (r : Registry) (t : Trail Spelled α) : Registry × Report α :=
  let (r, added) := r.addAll t.given
  (r, ⟨added.given, match added.result with
    | .error fault => .error fault
    | .ok _ => t.result⟩)

end Registry
end ClientGen
