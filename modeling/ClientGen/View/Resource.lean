import ClientGen.View.Operation
import ClientGen.View.Field
import ClientGen.Registry
import ClientGen.Resource

/-! A resource as a source file shows it, and how the index refers to it. The types of the resource
and of all its operations share one registry; method names are made unique by the HTTP method and,
where that does not suffice, by a number. -/
namespace ClientGen

namespace View

variable (parts : Parts)

def titleText (title : Node) : Except Fault (List Char) :=
  match title with
  | .str s => .ok (Naming.typeName s.toList)
  | _ => .error .notAnObject

def baseName (r : Resource) : Except Fault (List Char) := do
  titleText (parts.view (← r.title parts))

def moduleName (language : Language) (r : Resource) : Except Fault String := do
  let base ← baseName parts r
  return String.ofList (match language with
    | .typescript => base
    | .python => Naming.namespaceKey base)

def className (r : Resource) : Except Fault String := do
  return String.ofList ((← baseName parts r) ++ "Context".toList)

def namespaceOf (language : Language) (r : Resource) : Except Fault Namespace := do
  let key ← match r.name with
    | .str s => pure (String.ofList (Naming.namespaceKey s.toList))
    | _ => .error .notAnObject
  let module ← moduleName parts language r
  return { name := r.name, key := key, filename := module ++ language.extension,
           module := module, className := ← className parts r }

def namespaces (language : Language) : List Resource → Except Fault (List Namespace)
  | [] => .ok []
  | r :: rest => do
    let first ← namespaceOf parts language r
    return first :: (← namespaces language rest)

def numbered (taken : List String) (name : String) : Nat → Nat → String
  | 0, k => name ++ "_" ++ toString k
  | fuel + 1, k =>
    let candidate := name ++ "_" ++ toString k
    if taken.contains candidate then numbered taken name fuel (k + 1) else candidate

/-- A name that is not taken: the name itself, or the name with the method and, if need be, a
number. -/
def uniqueName (taken : List String) (name method : String) : String :=
  if taken.contains name then
    let name := name ++ "_" ++ String.ofList (Text.lower method.toList)
    if taken.contains name then numbered taken name taken.length 2 else name
  else name

def uniqueNames (taken : List String) : List (String × String) → List String
  | [] => []
  | (name, method) :: rest =>
    let final := uniqueName taken name method
    final :: uniqueNames (final :: taken) rest

def withUniqueNames (os : List OperationView) : List OperationView :=
  (uniqueNames [] (os.map fun o => (o.methodName, o.method))).zipWith
    (fun name o => { o with methodName := name }) os

def operations (language : Language) (owner : Node) :
    List Operation → Compile.Compiled (List OperationView)
  | [] => pure []
  | o :: rest => do
    let first ← operation parts language owner o
    return first :: (← operations language owner rest)

def compiledOperations (language : Language) (r : Resource) :
    Compile.Compiled (List OperationView) := do
  let _ ← parts.compile r.name [r.name] r.schema
  operations parts language r.name r.operations

def references (types : List TypeView) (operations : List OperationView) : List String :=
  types.flatMap (fun t => t.fields.map (·.type)) ++
    operations.flatMap fun o => o.returnType :: o.parameters.map (·.type)

def mentions (name reference : String) : Bool :=
  Parts.isContiguous name.toList reference.toList

def finish (language : Language) (r : Resource) (className : String) (registry : Registry)
    (os : List OperationView) : Report ResourceView := do
  let os := withUniqueNames os
  let types ← types language registry.types
  Trail.give (.compiled (parts.plainText r.name) types.length os.length)
  return {
    name := r.name
    title := parts.close (← r.title parts)
    className := className
    operations := os
    types := types
    usesImported := (references types os).any (mentions language.dialect.imported) }

def resource (language : Language) (strict : Bool) (r : Resource) (className : String) :
    Report ResourceView :=
  let trail := (compiledOperations parts language r).mapGiven language.dialect.define
  let (registry, os) := (Registry.empty strict).absorb trail
  os.andThen (finish parts language r className registry)

end View
end ClientGen
