import ClientGen.Node.Display
import ClientGen.Node.Same
import ClientGen.Fault

/-! What the expressions of a template come to: document values, what can only be named or tested,
and what is not there. Every kind of document value has members of its own, and these come before
the entries of a map where a name stands behind a point. -/
namespace ClientGen.Template

inductive Thing
  | operation
  | kind (name shown : String)
  | parameterized (shownParameter : String)
  | routine
  | template
  deriving DecidableEq, Repr, Inhabited

/-- What is not there: a name, an attribute or element of a value, or a value for a reason. -/
inductive Absence
  | name (n : String)
  | attribute (owner key : String)
  | element (owner shownIndex : String)
  | value (reason : String)
  deriving DecidableEq, Repr, Inhabited

def Absence.fault : Absence → Fault
  | .name n => .undefinedName n
  | .attribute owner key => .undefinedAttribute owner key
  | .element owner shownIndex => .undefinedElement owner shownIndex
  | .value reason => .undefinedValue reason

structure LoopRun where
  index : Nat
  size : Nat
  previous : Option Node
  next : Option Node
  deriving Repr, Inhabited

inductive Value
  | known (n : Node)
  | thing (t : Thing)
  | loop (run : LoopRun)
  | nothing (line : Nat)
  | absent (why : Absence)
  deriving Repr, Inhabited

def Thing.text : Thing → String
  | .operation => "<built-in method>"
  | .kind _ shown => "<class '" ++ shown ++ "'>"
  | .parameterized parameter => "dict[" ++ parameter ++ "]"
  | .routine => "<function>"
  | .template => "<TemplateReference None>"

def typeName : Node → String
  | .null => "NoneType"
  | .bool _ => "bool"
  | .int _ => "int"
  | .float _ => "float"
  | .str _ => "str"
  | .list _ => "list"
  | .map _ | .link _ | .enclosing _ => "dict"
  | .set _ => "set"
  | .pair _ _ => "tuple"
  | .bytes _ => "bytes"
  | .date _ => "datetime.date"
  | .datetime _ => "datetime.datetime"

def kindName : Node → String
  | .null => "None"
  | n => typeName n ++ " object"

def Thing.kindName : Thing → String
  | .operation => "builtin_function_or_method object"
  | .kind .. => "type object"
  | .parameterized _ => "types.GenericAlias object"
  | .routine => "function object"
  | .template => "jinja2.runtime.TemplateReference object"

def Value.kindName : Value → String
  | .known n => Template.kindName n
  | .thing t => t.kindName
  | .loop _ => "jinja2.runtime.LoopContext object"
  | .nothing _ => "jinja2.runtime.Undefined object"
  | .absent _ => "jinja2.runtime.StrictUndefined object"

def unmetCondition (line : Nat) : Fault :=
  .undefinedValue ("the inline if-expression on line " ++ toString line ++
    " evaluated to false and no else section was defined.")

def Value.require : Value → Except Fault Value
  | .absent why => .error why.fault
  | v => .ok v

def shownText (n : Node) : Except Fault String :=
  if n.writable then .ok n.plainText else .error .longInteger

def Value.text : Value → Except Fault String
  | .known n => shownText n
  | .thing t => .ok t.text
  | .loop run =>
    .ok ("<LoopContext " ++ toString (run.index + 1) ++ "/" ++ toString run.size ++ ">")
  | .nothing _ => .ok ""
  | .absent why => .error why.fault

def Value.holds : Value → Except Fault Bool
  | .known n => .ok n.holds
  | .thing _ | .loop _ => .ok true
  | .nothing _ => .ok false
  | .absent why => .error why.fault

def itemsOf (n : Node) : Except Fault (List Node) :=
  match n with
  | .list items => .ok items
  | .set items => .ok items
  | .pair a b => .ok [a, b]
  | .map entries => .ok (entries.map (·.1))
  | .str s => .ok (s.toList.map fun c => .str (String.singleton c))
  | .bytes content => .ok (content.map fun b => .int b.toNat)
  | _ => .error .wrongKind

def Value.items : Value → Except Fault (List Node)
  | .known n => itemsOf n
  | .nothing _ => .ok []
  | .absent why => .error why.fault
  | _ => .error .wrongKind

def Value.length : Value → Except Fault Nat
  | .known n => do return (← itemsOf n).length
  | .loop run => .ok run.size
  | .nothing _ => .ok 0
  | .absent why => .error why.fault
  | .thing _ => .error .wrongKind

def commonOperations : List String := [
  "__delattr__", "__dir__", "__eq__", "__format__", "__ge__", "__getattribute__", "__getstate__",
  "__gt__", "__init__", "__init_subclass__", "__le__", "__lt__", "__ne__", "__new__",
  "__reduce__", "__reduce_ex__", "__repr__", "__setattr__", "__sizeof__", "__str__",
  "__subclasshook__"]

def textOperations : List String := [
  "capitalize", "center", "count", "endswith", "expandtabs", "find", "index", "isalnum", "isalpha",
  "isascii", "isdigit", "islower", "isspace", "istitle", "isupper", "join", "ljust", "lower",
  "lstrip", "maketrans", "partition", "removeprefix", "removesuffix", "replace", "rfind", "rindex",
  "rjust", "rpartition", "rsplit", "rstrip", "split", "splitlines", "startswith", "strip",
  "swapcase", "title", "translate", "upper", "zfill"]

def dateOperations : List String := [
  "ctime", "fromisocalendar", "fromisoformat", "fromordinal", "fromtimestamp", "isocalendar",
  "isoformat", "isoweekday", "max", "min", "replace", "resolution", "strftime", "timetuple",
  "today", "toordinal", "weekday"]

def operationsOf : Node → List String
  | .null => []
  | .bool _ | .int _ => [
    "as_integer_ratio", "bit_count", "bit_length", "conjugate", "from_bytes", "to_bytes"]
  | .float _ => ["as_integer_ratio", "conjugate", "fromhex", "hex", "is_integer"]
  | .str _ => [
    "casefold", "encode", "format", "format_map", "isdecimal", "isidentifier", "isnumeric",
    "isprintable"] ++ textOperations
  | .bytes _ => ["decode", "fromhex", "hex"] ++ textOperations
  | .list _ => [
    "append", "clear", "copy", "count", "extend", "index", "insert", "pop", "remove", "reverse",
    "sort"]
  | .map _ | .link _ | .enclosing _ => [
    "clear", "copy", "fromkeys", "get", "items", "keys", "pop", "popitem", "setdefault", "update",
    "values"]
  | .set _ => [
    "add", "clear", "copy", "difference", "difference_update", "discard", "intersection",
    "intersection_update", "isdisjoint", "issubset", "issuperset", "pop", "remove",
    "symmetric_difference", "symmetric_difference_update", "union", "update"]
  | .pair _ _ => ["count", "index"]
  | .date _ => dateOperations
  | .datetime _ => [
    "astimezone", "combine", "date", "dst", "now", "strptime", "time", "timestamp", "timetz",
    "tzname", "utcfromtimestamp", "utcnow", "utcoffset", "utctimetuple"] ++ dateOperations

def intMember? (n : Int) (key : String) : Option Node :=
  match key with
  | "real" | "numerator" => some (.int n)
  | "imag" => some (.int 0)
  | "denominator" => some (.int 1)
  | _ => none

def dateMember? (d : Date) (key : String) : Option Node :=
  match key with
  | "year" => some (.int d.year)
  | "month" => some (.int d.month)
  | "day" => some (.int d.day)
  | _ => none

def valueMember? (n : Node) (key : String) : Option Node :=
  match n with
  | .bool b => intMember? (if b then 1 else 0) key
  | .int i => intMember? i key
  | .float x =>
    match key with
    | "real" => some (.float x)
    | "imag" => some (.float 0.0)
    | _ => none
  | .date d => dateMember? d key
  | .datetime t =>
    match key with
    | "hour" => some (.int t.hour)
    | "minute" => some (.int t.minute)
    | "second" => some (.int t.second)
    | "microsecond" => some (.int t.micro)
    | "fold" => some (.int 0)
    | _ => dateMember? t.date key
  | _ => none

def member? (n : Node) (key : String) : Option Value :=
  match valueMember? n key with
  | some m => some (.known m)
  | none =>
    if key = "__class__" then some (.thing (.kind (typeName n) (typeName n)))
    else if (operationsOf n).contains key || commonOperations.contains key then
      some (.thing .operation)
    else none

def kindMember? (name key : String) : Option Value :=
  if key = "__name__" ∨ key = "__qualname__" then some (.known (.str name))
  else if key = "__class__" then some (.thing (.kind "type" "type"))
  else if commonOperations.contains key || key = "mro" then some (.thing .operation)
  else
    let operations := match name with
      | "dict" => operationsOf (.map [])
      | "range" => ["count", "index", "start", "step", "stop"]
      | "Cycler" => ["current", "next", "reset"]
      | _ => []
    if operations.contains key then some (.thing .operation) else none

def Thing.member? (t : Thing) (key : String) : Option Value :=
  match t with
  | .kind name _ => kindMember? name key
  | .parameterized _ => kindMember? "dict" key
  | _ => if commonOperations.contains key then some (.thing .operation) else none

def LoopRun.member? (run : LoopRun) (key : String) : Option Value :=
  let number := fun (n : Nat) => some (Value.known (.int n))
  match key with
  | "index0" => number run.index
  | "index" => number (run.index + 1)
  | "revindex0" => number (run.size - run.index - 1)
  | "revindex" => number (run.size - run.index)
  | "first" => some (.known (.bool (run.index == 0)))
  | "last" => some (.known (.bool (run.index + 1 == run.size)))
  | "length" => number run.size
  | "depth" => number 1
  | "depth0" => number 0
  | "previtem" => some ((run.previous.map Value.known).getD
      (.absent (.value "there is no previous item")))
  | "nextitem" => some ((run.next.map Value.known).getD
      (.absent (.value "there is no next item")))
  | "cycle" | "changed" => some (.thing .operation)
  | _ => if commonOperations.contains key then some (.thing .operation) else none

def Value.member? : Value → String → Option Value
  | .known n, key => Template.member? n key
  | .thing t, key => t.member? key
  | .loop run, key => run.member? key
  | _, _ => none

def indexIn? (size : Nat) (n : Int) : Option Nat :=
  let i := if n < 0 then n + size else n
  if 0 ≤ i ∧ i < size then some i.toNat else none

def position? : Node → Option Int
  | .int i => some i
  | .bool b => some (if b then 1 else 0)
  | _ => none

def element? (n index : Node) : Option Node :=
  match n with
  | .map entries => if index.hashable then Node.findKey? index entries else none
  | .list items => do
    let i ← indexIn? items.length (← position? index)
    items[i]?
  | .pair a b => do
    let i ← indexIn? 2 (← position? index)
    [a, b][i]?
  | .str s => do
    let i ← indexIn? s.length (← position? index)
    (s.toList[i]?).map fun c => .str (String.singleton c)
  | .bytes content => do
    let i ← indexIn? content.length (← position? index)
    (content[i]?).map fun b => .int b.toNat
  | _ => none

def Value.element? : Value → Node → Option Value
  | .known n, index => (Template.element? n index).map .known
  | .thing (.kind "dict" _), index => some (.thing (.parameterized index.quotedText))
  | _, _ => none

def Value.missing (v : Value) (index : Node) : Value :=
  match index with
  | .str key => .absent (.attribute v.kindName key)
  | index => .absent (.element v.kindName index.quotedText)

def Value.attribute (v : Value) (key : String) : Except Fault Value :=
  match v with
  | .absent why => .error why.fault
  | .nothing line => .error (unmetCondition line)
  | v => .ok (((v.member? key).or (v.element? (.str key))).getD (v.missing (.str key)))

def Value.element (v : Value) (index : Node) : Except Fault Value :=
  match v with
  | .absent why => .error why.fault
  | .nothing line => .error (unmetCondition line)
  | v =>
    let member := match index with
      | .str key => v.member? key
      | _ => none
    .ok (((v.element? index).or member).getD (v.missing index))

end ClientGen.Template
