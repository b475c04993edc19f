/-! Recognising how a short text is spelled: characters of a class, fixed words, and these in
sequence, as alternatives or repeated. -/
namespace ClientGen.Text

/-- A spelling recogniser returns what follows the characters it takes, longest first, for every
way to take them. -/
abbrev Spelling := List Char → List (List Char)

namespace Spelling

def char (p : Char → Bool) : Spelling
  | c :: rest => if p c then [rest] else []
  | [] => []

def word (w : String) : Spelling := fun s =>
  if w.toList.isPrefixOf s then [s.drop w.length] else []

def seq (a b : Spelling) : Spelling := fun s => (a s).flatMap b

def alt (a b : Spelling) : Spelling := fun s => a s ++ b s

def optional (a : Spelling) : Spelling := fun s => a s ++ [s]

def many (p : Char → Bool) : Spelling
  | [] => [[]]
  | c :: rest => if p c then many p rest ++ [c :: rest] else [c :: rest]

def atLeastOne (p : Char → Bool) : Spelling := seq (char p) (many p)

def oneOf (words : List String) : Spelling := fun s => words.flatMap fun w => word w s

def all (parts : List Spelling) : Spelling := parts.foldr seq fun s => [s]

def sign : Spelling := optional (char fun c => c == '-' || c == '+')

def accepts (a : Spelling) (s : List Char) : Bool :=
  (a s).any fun rest => rest = [] || rest = ['\n']

end Spelling

end ClientGen.Text
