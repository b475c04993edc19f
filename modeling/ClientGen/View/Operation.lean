import ClientGen.View.Basic
import ClientGen.Compile
import ClientGen.Operation
import ClientGen.Naming.Placeholder

/-! An operation as a source file shows it. Path parameters become arguments; the query of a GET
operation, and the request body of any other, becomes one further argument. Types that the
operation needs are handed out on the way. -/
namespace ClientGen

namespace View

def upperText (s : String) : String := String.ofList (Text.upper s.toList)

def operationName (summary : Node) : Except Fault String :=
  if summary.holds then
    match summary with
    | .str s => .ok (String.ofList (Naming.operationName s.toList))
    | _ => .error .notAnObject
  else .ok (String.ofList (Naming.operationName []))

def methodName (summary id : Node) : Except Fault String := do
  let words ← if summary.holds then
      match summary with
      | .str s => pure s.toList
      | _ => .error .notAnObject
    else pure []
  match id with
  | .str id => return String.ofList (Naming.methodName words id.toList)
  | _ =>
    if (Text.words words).isEmpty then .error .wrongKind
    else return String.ofList (Naming.methodName words [])

variable (parts : Parts)

def argumentSchema (o : Operation) : Except Fault (Option Node) := do
  if upperText o.method = "GET" then o.querySchema parts
  else return (o.request.bind Content.default?).map (·.schema)

def present (schema : Option Node) : Option Node := schema.filter parts.holds

def mayLeaveOut (schema : Option Node) : Except Fault Bool :=
  match schema with
  | some s => do return !parts.holds (← parts.field s "required")
  | none => .ok false

def compiled (language : Language) (owner : Node) (chain : List Node) (schema : Node) :
    Compile.Compiled String := do
  return language.dialect.spell (← parts.compile owner chain schema)

def pathParameters (language : Language) (owner : Node) (name : String) :
    List Parameter → Compile.Compiled (List ParameterView)
  | [] => pure []
  | p :: rest => do
    let shown ← language.parameterName (parts.close p.name)
    let type ← compiled parts language owner [.str name, p.name, .str "Path"] p.schema
    let view : ParameterView :=
      { name := shown, type := type, description := parts.close p.description,
        isOptional := false }
    return view :: (← pathParameters language owner name rest)

def argument (language : Language) (owner : Node) (name : String) (isOptional : Bool) :
    Option Node → Compile.Compiled (List ParameterView)
  | none => pure []
  | some schema => do
    let type ← compiled parts language owner [.str name, .str "Params"] schema
    return [{ name := .str "params", type := type,
              description := .str "Parameters for this operation", isOptional := isOptional }]

def operation (language : Language) (owner : Node) (o : Operation) :
    Compile.Compiled OperationView := do
  let summary := parts.close o.summary
  let name ← operationName summary
  let schema := present parts (← argumentSchema parts o)
  let isOptional ← mayLeaveOut parts schema
  let inPath ← pathParameters parts language owner name (o.located parts "path")
  let inRest ← argument parts language owner name isOptional schema
  let returned ← (← o.defaultResponse parts).content.requireDefault
  let path ← Naming.fillPath language.placeholder language.renamed o.path.toList
  let method ← methodName summary (parts.close o.id)
  let returnType ← compiled parts language owner [.str name, .str "Response"] returned.schema
  return {
    id := parts.close o.id
    description := parts.close o.description
    summary := summary
    method := upperText o.method
    path := o.path
    templatizedPath := String.ofList path
    methodName := method
    parameters := inPath ++ inRest
    hasParams := schema.isSome
    returnType := returnType }

end View
end ClientGen
