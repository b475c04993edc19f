import ClientGen.Fault
import ClientGen.Text.Charset
import ClientGen.Text.Integer
import ClientGen.Web.Packed
import ClientGen.Web.Status

/-! Answers to a request: a status, headers and a body. The headers tell how the body is packed and
which encoding its text is in. -/
namespace ClientGen.Web

structure Response where
  status : Nat
  headers : List (String × String)
  body : String
  deriving Repr, Inhabited

namespace Response

def isAscii (s : String) : Bool := s.toList.all (·.toNat < 128)

def hasPlainHeaders (r : Response) : Bool := r.headers.all fun h => isAscii h.1 && isAscii h.2

def values (r : Response) (name : String) : List (List Char) :=
  (r.headers.filter fun h => Text.lower h.1.toList = name.toList).map (·.2.toList)

def header? (r : Response) (name : String) : Option (List Char) :=
  match r.values name with
  | [] => none
  | vs => some (Text.joinWith [',', ' '] vs)

def redirection? (r : Response) : Option (List Char) :=
  if isRedirection r.status then r.header? "location" else none

def opensQuote (s : List Char) : Bool :=
  let escaped := ((s.zip (s.drop 1)).filter (· = ('\\', '"'))).length
  (s.count '"' - escaped) % 2 = 1

def joinQuoted : Nat → List (List Char) → List (List Char)
  | 0, pieces => pieces
  | _, [] => []
  | _, [piece] => [piece]
  | fuel + 1, piece :: next :: rest =>
    if !piece.isEmpty && opensQuote piece then joinQuoted fuel ((piece ++ ';' :: next) :: rest)
    else piece :: joinQuoted fuel (next :: rest)

def unquoted (s : List Char) : List Char :=
  match s with
  | '"' :: rest =>
    if rest.getLast? = some '"' then
      replaceAll ['\\', '"'] '"' (replaceAll ['\\', '\\'] '\\' rest.dropLast)
    else s
  | '<' :: rest => if rest.getLast? = some '>' then rest.dropLast else s
  | s => s
where
  replaceAll (pattern : List Char) (by' : Char) (s : List Char) : List Char :=
    match s with
    | a :: b :: rest =>
      if [a, b] = pattern then by' :: replaceAll pattern by' rest
      else a :: replaceAll pattern by' (b :: rest)
    | s => s

def parameter? (name : String) (s : List Char) : Option (List Char) :=
  let pieces := Text.splitAt ';' s
  (joinQuoted pieces.length pieces).findSome? fun piece =>
    let key := piece.takeWhile (· ≠ '=')
    if Text.lower (Text.trim key) = name.toList then
      some (unquoted (Text.trim (piece.drop (key.length + 1))))
    else none

def charset (r : Response) : Text.Charset :=
  match (r.header? "content-type").bind (parameter? "charset") with
  | some name => Text.Charset.ofName name
  | none => .usual

def packings (r : Response) : List (List Char) :=
  ((r.values "content-encoding").flatMap (Text.splitAt ',')).map fun name =>
    Text.lower (Text.trim name)

/-- The bytes under one packing. A text never begins like a packed file, and its first byte alone
counts as cut off; a packing that is not known leaves the bytes as they are. -/
def unpackedOnce (name : List Char) (bytes : List UInt8) : Except String (List UInt8) :=
  let refused := fun (reason : String) => "Error -3 while decompressing data: " ++ reason
  match String.ofList name with
  | "gzip" => if bytes.length ≤ 1 then .ok [] else .error (refused "incorrect header check")
  | "deflate" => (Web.unpacked bytes).mapError fun flaw => refused flaw.message
  | _ => .ok bytes

def unpacked (r : Response) : Except String (List UInt8) :=
  r.packings.foldrM unpackedOnce (Text.encoded r.body.toList)

end Response
end ClientGen.Web
