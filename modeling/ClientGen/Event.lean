import ClientGen.Fault

/-! What a run reports while it goes on. Every event has a level, the part of the program that it
comes from, and a wording. -/
namespace ClientGen

inductive Level
  | debug
  | info
  | warning
  deriving DecidableEq, Repr

def Level.name : Level → String
  | .debug => "DEBUG"
  | .info => "INFO"
  | .warning => "WARNING"

def Level.rank : Level → Nat
  | .debug => 0
  | .info => 1
  | .warning => 2

inductive Event
  | reading (path : String)
  | fetching (address : String)
  | answered (address : String) (status : Nat) (reason : String)
  | loaded (paths schemas : Nat)
  | grouped (method path resource operation : String)
  | dropped (operations : Nat) (shownName : String)
  | found (resources : Nat)
  | redefined (name : String)
  | compiled (resource : String) (types operations : Nat)
  | generated (path : String)
  | wrote (files : Nat) (directory : String)
  deriving DecidableEq, Repr

namespace Event

def level : Event → Level
  | .grouped .. | .dropped .. | .compiled .. => .debug
  | .redefined _ => .warning
  | _ => .info

def channel : Event → String
  | .reading _ | .fetching _ | .loaded .. => "sdkgen.loader"
  | .answered .. => "httpx"
  | .grouped .. | .dropped .. | .found _ => "sdkgen.document_builder"
  | .redefined _ => "sdkgen.type_compiler"
  | .compiled .. => "sdkgen.platforms.base"
  | .generated _ => "sdkgen.codegen"
  | .wrote .. => "sdkgen.generator"

def message : Event → String
  | .reading path => "Reading " ++ path
  | .fetching address => "Fetching " ++ address
  | .answered address status reason =>
    "HTTP Request: GET " ++ address ++ " \"HTTP/1.1 " ++ toString status ++ " " ++ reason ++ "\""
  | .loaded paths schemas =>
    "Loaded " ++ toString paths ++ " path(s), " ++ toString schemas ++ " component schema(s)"
  | .grouped method path resource operation =>
    method ++ " " ++ path ++ " -> " ++ resource ++ " (" ++ operation ++ ")"
  | .dropped operations shownName =>
    "Dropping " ++ toString operations ++ " operation(s) of unknown resource " ++ shownName
  | .found resources => "Found " ++ toString resources ++ " resource(s)"
  | .redefined name => "Type " ++ name ++ " redefined with different fields"
  | .compiled resource types operations =>
    resource ++ ": " ++ toString types ++ " type(s), " ++ toString operations ++ " operation(s)"
  | .generated path => "Generated " ++ path
  | .wrote files directory => "Wrote " ++ toString files ++ " file(s) to " ++ directory

def line (e : Event) : String := e.level.name ++ " " ++ e.channel ++ ": " ++ e.message

end Event
end ClientGen
