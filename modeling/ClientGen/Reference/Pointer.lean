import ClientGen.Node.Basic
import ClientGen.Text.Bytes
import ClientGen.Text.Split

/-! References as a document writes them: an address and, behind `#`, a pointer into the document
at that address. The pointer is percent-encoded; its parts stand between slashes, with `~1` for a
slash and `~0` for a tilde inside a part. -/
namespace ClientGen

namespace Node

def reference? : Node → Option String
  | .map entries =>
    match Entries.at? "$ref" entries with
    | some (.str s) => some s
    | _ => none
  | _ => none

end Node

namespace Reference

def unescapePart : List Char → List Char
  | '~' :: '1' :: rest => '/' :: unescapePart rest
  | '~' :: '0' :: rest => '~' :: unescapePart rest
  | c :: rest => c :: unescapePart rest
  | [] => []

/-- Parts of a pointer. An empty pointer has none, and slashes in front count for nothing unless
they are percent-encoded. -/
def pointerParts (pointer : List Char) : List (List Char) :=
  if pointer.isEmpty then []
  else
    (Text.splitAt '/' (Text.unescaped (pointer.dropWhile (· = '/')))).map unescapePart

end Reference
end ClientGen
