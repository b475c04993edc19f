import ClientGen.Text.LetterCase
import ClientGen.Text.Split

/-! Names derived from the texts of a document. An identifier is snake case over lower-case ASCII
letters, digits and underscores; a type name is a title without its blanks; a slug keeps the
letters and digits of an address. -/
namespace ClientGen.Naming
open Text

def boundaryBefore (previous : Option Char) (c : Char) (next : Option Char) : Bool :=
  isAsciiUpper c &&
    match previous with
    | none => false
    | some p =>
      isAsciiLower p || isDecimal p ||
        (isAsciiUpper p && match next with | some n => isAsciiLower n | none => false)

def markBoundaries (previous : Option Char) : List Char → List Char
  | [] => []
  | c :: rest =>
    if boundaryBefore previous c rest.head? then '_' :: c :: markBoundaries (some c) rest
    else c :: markBoundaries (some c) rest

def snakeCase (s : List Char) : List Char := lower (markBoundaries none s)

def reservedWords : List String := [
  "False", "None", "True", "and", "as", "assert", "async", "await", "break", "class", "continue",
  "def", "del", "elif", "else", "except", "finally", "for", "from", "global", "if", "import", "in",
  "is", "lambda", "nonlocal", "not", "or", "pass", "raise", "return", "try", "while", "with",
  "yield"]

def isReserved (s : List Char) : Bool := reservedWords.any (·.toList = s)

def bareIdentifier (s : List Char) : List Char :=
  stripChar '_' (collapse '_' ((snakeCase s).map fun c => if isAsciiWord c then c else '_'))

def guardIdentifier (name : List Char) : List Char :=
  match name with
  | [] => ['_']
  | c :: _ =>
    let name := if isAsciiDigit c then '_' :: name else name
    if isReserved name then name ++ ['_'] else name

def identifier (s : List Char) : List Char := guardIdentifier (bareIdentifier s)

def slug (path method : List Char) : List Char :=
  let address := path ++ '-' :: method
  stripChar '-' (collapse '-' (address.map fun c => if isAsciiAlnum c || c = '-' then c else '-'))

def typeName (title : List Char) : List Char := (words title).flatten

def capitalized : List Char → List Char
  | [] => []
  | c :: rest => upper [c] ++ lower rest

def operationName (summary : List Char) : List Char :=
  if summary.isEmpty then "UnknownOperation".toList
  else (splitAt ' ' summary).flatMap capitalized

def methodName (summary operationId : List Char) : List Char :=
  match words summary with
  | [] => identifier operationId
  | word :: _ => identifier (lower word)

def namespaceKey (name : List Char) : List Char := identifier (snakeCase (typeName name))

end ClientGen.Naming
