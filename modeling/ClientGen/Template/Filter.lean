import ClientGen.Json.Writer
import ClientGen.Template.Value
import ClientGen.Text.Alphanumeric
import ClientGen.Text.Wrap

/-! Filters: what a template may make of a value on its way into the text. -/
namespace ClientGen.Template

namespace Filter

def widthBound : Nat := 4294967295

inductive Width
  | unbounded
  | given (n : Nat)
  /-- A text that is no number stands in the place of one: lines are broken behind the text that a
  width is written in, braces included. -/
  | mark (m : Text.Spelling)

def isPlainMark (c : Char) : Bool := !"\\[]()|^$\x7b*+?".toList.contains c

def markOf? : List Char → Option Text.Spelling
  | [] => some fun s => [s]
  | c :: '+' :: rest =>
    if isPlainMark c then (markOf? rest).map (Text.Spelling.seq (.atLeastOne (accepts c))) else none
  | c :: rest =>
    if isPlainMark c then (markOf? rest).map (Text.Spelling.seq (.char (accepts c))) else none
where
  accepts (c x : Char) : Bool := if c = '.' then x != '\n' else x == c

def widthOf (digits : List Char) : Except Fault Width := do
  if digits.isEmpty then return .unbounded
  else if digits.all Text.isAsciiDigit then
    if 4300 < digits.length then .error .invalidValue
    else
      let width := digits.foldl (fun n d => n * 10 + (d.toNat - 48)) 0
      if widthBound ≤ width then .error .tooLarge
      else if width = 0 then .error .zeroWidth
      else return .given width
  else
    match markOf? (',' :: digits ++ ['\x7d']) with
    | some m => return .mark (Text.Spelling.seq (.word "\x7b1") m)
    | none => return .mark fun _ => []

def wrapText (s width : List Char) : Except Fault String := do
  return String.ofList (match ← widthOf width with
    | .unbounded => Text.wrap (max s.length 1) s
    | .given n => Text.wrap n s
    | .mark m => Text.breakAtMarks m s)

def wrap (value width : Node) : Except Fault String := do
  let width ← shownText width
  wrapText (← shownText value).toList width.toList

def firstLine? (n : Node) : Except Fault (Option Int) :=
  match n with
  | .int i => .ok (some i)
  | .bool b => .ok (some (if b then 1 else 0))
  | .float x =>
    match Decimal.ceiling? x with
    | some i => .ok (some i)
    | none => .ok (if x < 0.0 then some 0 else none)
  | _ => .error .wrongKind

def marginText (s : List Char) (lead : Except Fault String) (start : Node) :
    Except Fault String := do
  match ← firstLine? start with
  | some first =>
    if (s.count '\n' : Int) < first then return String.ofList s
    else return String.ofList (Text.withMargin (← lead).toList first s)
  | none => return String.ofList s

def margin (value lead start : Node) : Except Fault String := do
  marginText (← shownText value).toList (shownText lead) start

end Filter

def filterParameters : List (String × List String) :=
  [("json", []), ("wrap", ["width"]), ("prefix", ["prefix", "start"]), ("length", [])]

def isFilter (name : String) : Bool := (filterParameters.lookup name).isSome

def bound? (parameters : List String) (values : List Value) (names : List String) :
    Option (List (String × Value)) :=
  let plain := values.take (values.length - names.length)
  let named := names.zip (values.drop plain.length)
  let taken := parameters.take plain.length
  if plain.length ≤ parameters.length && names.eraseDups.length == names.length &&
      named.all (fun e => parameters.contains e.1 && !taken.contains e.1) then
    some (taken.zip plain ++ named)
  else none

def startOf (v : Option Value) : Except Fault Node :=
  match v with
  | none => .ok (.int 0)
  | some (.known n) => .ok n
  | some (.absent why) => .error why.fault
  | some (.nothing line) => .error (unmetCondition line)
  | some _ => .error .wrongKind

def applyFilter (filter : String) (value : Value) (arguments : List Value) (names : List String) :
    Except Fault Node := do
  let some parameters := filterParameters.lookup filter
    | throw (if names.isEmpty then .template .missingFilter else .wrongKind)
  let some given := bound? parameters arguments names | throw .wrongKind
  match filter, given.lookup "width", given.lookup "prefix" with
  | "json", _, _ =>
    match value with
    | .known n => return .str (← Json.compact n)
    | _ => throw .wrongKind
  | "wrap", some width, _ =>
    let width ← width.text
    return .str (← Filter.wrapText (← value.text).toList width.toList)
  | "prefix", _, some lead =>
    let s := (← value.text).toList
    return .str (← Filter.marginText s lead.text (← startOf (given.lookup "start")))
  | "length", _, _ => return .int (← value.length)
  | _, _, _ => throw .wrongKind

end ClientGen.Template
