import ClientGen.Language

/-! What a source file shows of a resource: its types, its operations and their parameters. Every
view can be turned into a value, as templates read it. -/
namespace ClientGen

structure FieldView where
  name : Node
  type : String
  isOptional : Bool
  comment : Node
  readonly : Bool
  default : Option String
  deriving Repr, Inhabited

structure TypeView where
  name : String
  fields : List FieldView
  deriving Repr, Inhabited

structure ParameterView where
  name : Node
  type : String
  description : Node
  isOptional : Bool
  deriving Repr, Inhabited

structure OperationView where
  id : Node
  description : Node
  summary : Node
  method : String
  path : String
  templatizedPath : String
  methodName : String
  parameters : List ParameterView
  hasParams : Bool
  returnType : String
  deriving Repr, Inhabited

structure ResourceView where
  name : Node
  title : Node
  className : String
  operations : List OperationView
  types : List TypeView
  usesImported : Bool
  deriving Repr, Inhabited

structure Namespace where
  name : Node
  key : String
  filename : String
  module : String
  className : String
  deriving Repr, Inhabited

def FieldView.toNode (v : FieldView) : Node :=
  Node.object ([("name", v.name), ("type", .str v.type), ("optional", .bool v.isOptional),
    ("comment", v.comment), ("readonly", .bool v.readonly)] ++
    (v.default.map fun d => [("default", Node.str d)]).getD [])

def TypeView.toNode (v : TypeView) : Node :=
  Node.object [("name", .str v.name), ("fields", .list (v.fields.map FieldView.toNode))]

def ParameterView.toNode (v : ParameterView) : Node :=
  Node.object [("name", v.name), ("type", .str v.type), ("description", v.description),
    ("optional", .bool v.isOptional)]

def OperationView.toNode (v : OperationView) : Node :=
  Node.object [("id", v.id), ("description", v.description), ("summary", v.summary),
    ("method", .str v.method), ("path", .str v.path),
    ("templatized_path", .str v.templatizedPath), ("method_name", .str v.methodName),
    ("parameters", .list (v.parameters.map ParameterView.toNode)),
    ("has_params", .bool v.hasParams), ("return_type", .str v.returnType)]

def ResourceView.scope (v : ResourceView) : List (String × Node) :=
  [("name", v.name), ("title", v.title), ("class_name", .str v.className),
    ("operations", .list (v.operations.map OperationView.toNode)),
    ("types", .list (v.types.map TypeView.toNode)), ("uses_imported", .bool v.usesImported)]

def Namespace.toNode (n : Namespace) : Node :=
  Node.object [("name", n.name), ("key", .str n.key), ("filename", .str n.filename),
    ("module", .str n.module), ("class_name", .str n.className)]

def indexVariables (ns : List Namespace) : List (String × Node) :=
  [("namespaces", .list (ns.map Namespace.toNode))]

end ClientGen
