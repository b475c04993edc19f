import ClientGen.Json.Reader
import ClientGen.Yaml.Value
import ClientGen.Node.KeySpelling
import ClientGen.Files.Tree
import ClientGen.Web.Exchange

/-! Loading a document. A source that names a web address is fetched and any other is the path of a
file; the ending of its name tells YAML from JSON. Only a map is a document. -/
namespace ClientGen

structure World where
  files : Files
  web : Web.Table
  deriving Inhabited

/-- What a runtime leaves open: the stack it has for reading a text and for spelling the keys of a
value, and the order of sets. What a level takes of the stack depends on what stands there, so the text
or the value decides how many there are. -/
structure Runtime where
  json : String → Levels := fun _ => none
  yaml : String → Levels := fun _ => none
  keys : Node → Levels := fun _ => none
  sets : Yaml.SetOrder := {}

namespace Source

def endsWith (ending s : String) : Bool := ending.toList.isSuffixOf s.toList

def startsWith (lead s : String) : Bool := lead.toList.isPrefixOf s.toList

def isYaml (source : String) : Bool := endsWith ".yaml" source || endsWith ".yml" source

def isAddress (source : String) : Bool :=
  startsWith "http://" source || startsWith "https://" source

def longKey : String :=
  "Exceeds the limit (4300 digits) for integer string conversion; " ++
    "use sys.set_int_max_str_digits() to increase the limit"

def readYaml (text source : String) (runtime : Runtime) : Except Fault Node :=
  match Yaml.read text.toList (runtime.yaml text) runtime.sets with
  | .ok n =>
    match n.spellKeys (runtime.keys n) with
    | .error .longInteger => .error (.load (.malformed source (some longKey)))
    | spelled => spelled
  | .error .malformed => .error (.load (.malformed source none))
  | .error (.valueless detail) => .error (.load (.malformed source (some detail)))
  | .error (.fault cause) => .error cause

def readJson (text source : String) (runtime : Runtime) : Except Fault Node :=
  match Json.readDocument text.toList (runtime.json text) with
  | .ok n => .ok n
  | .error ⟨.nesting, _⟩ => .error .endless
  | .error failure => .error (.load (.malformed source (some (failure.message text.toList))))

def parse (text source : String) (runtime : Runtime := {}) : Except Fault Node := do
  let n ← if isYaml source then readYaml text source runtime else readJson text source runtime
  match n with
  | .map _ => return n
  | _ => .error (.load (.notADocument source))

def text (w : World) (source : String) : List Event × Except Fault String :=
  if isAddress source then
    let (events, outcome) := Web.fetch w.web source
    let result := match outcome with
      | .ok text => .ok text
      | .error (.failed reason) => .error (.load (.unfetchable source reason))
      | .error (.fault cause) => .error cause
    (.fetching source :: events, result)
  else
    let path := Path.parse source
    let result := match w.files.readText path with
      | .ok text => .ok text
      | .error (.file fault shown) => .error (.load (.unreadable shown fault))
      | .error fault => .error fault
    ([.reading path.text], result)

def load (w : World) (source : String) (runtime : Runtime := {}) : List Event × Except Fault Node :=
  let (events, text) := text w source
  (events, text.bind fun t => parse t source runtime)

end Source
end ClientGen
