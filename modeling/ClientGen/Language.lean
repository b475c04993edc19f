import ClientGen.TypeRef
import ClientGen.Naming

/-! The languages that source files are written for. -/
namespace ClientGen

inductive Language
  | typescript
  | python
  deriving DecidableEq, Repr, Inhabited

namespace Language

def name : Language → String
  | .typescript => "typescript"
  | .python => "python"

def available : List String := ["python", "typescript"]

def ofName (name : String) : Except Fault Language :=
  if name = "typescript" then .ok .typescript
  else if name = "python" then .ok .python
  else .error (.unknownPlatform name)

def dialect : Language → Dialect
  | .typescript => .typescript
  | .python => .python

def extension : Language → String
  | .typescript => ".ts"
  | .python => ".py"

def resourceTemplate : Language → String
  | .typescript => "resource.ts.j2"
  | .python => "resource.py.j2"

def indexTemplate : Language → String
  | .typescript => "index.ts.j2"
  | .python => "__init__.py.j2"

def indexFile : Language → String
  | .typescript => "index.ts"
  | .python => "__init__.py"

def placeholder : Language → List Char
  | .typescript => ['$', '\x7b', '%', 's', '\x7d']
  | .python => ['\x7b', '%', 's', '\x7d']

def renamed : Language → List Char → List Char
  | .typescript, name => name
  | .python, name => Naming.identifier name

def parameterName (language : Language) (name : Node) : Except Fault Node :=
  match language, name with
  | .typescript, name => .ok name
  | .python, .str s => .ok (.str (String.ofList (Naming.identifier s.toList)))
  | .python, _ => .error .wrongKind

end Language
end ClientGen
