import ClientGen.Node.Basic
import ClientGen.Text.Quoted
import ClientGen.Text.Split

/-! How a closed value reads when it is put into a text. A text stands for itself on its own and is
quoted inside a container; a container met again inside itself is shown by dots in its brackets. -/
namespace ClientGen

def commaJoined (parts : List (List Char)) : List Char := Text.joinWith [',', ' '] parts

def shownCall (name : String) (arguments : List (List Char)) : List Char :=
  name.toList ++ '(' :: commaJoined arguments ++ [')']

def intText (n : Int) : List Char := (toString n).toList

def Date.shown (d : Date) : List Char :=
  shownCall "datetime.date" [intText d.year, intText d.month, intText d.day]

def shownDuration (seconds : Int) : List Char :=
  let days := seconds / 86400
  let rest := seconds % 86400
  shownCall "datetime.timedelta"
    ((if days = 0 then [] else ["days=".toList ++ intText days]) ++
     (if rest = 0 then (if days = 0 then [['0']] else [])
      else ["seconds=".toList ++ intText rest]))

def shownOffset (seconds : Int) : List Char :=
  "tzinfo=".toList ++
    if seconds = 0 then "datetime.timezone.utc".toList
    else shownCall "datetime.timezone" [shownDuration seconds]

def DateTime.shown (t : DateTime) : List Char :=
  let base := [t.date.year, t.date.month, t.date.day, t.hour, t.minute]
  let fine := if t.micro ≠ 0 then [t.second, t.micro] else if t.second ≠ 0 then [t.second] else []
  shownCall "datetime.datetime"
    ((base ++ fine).map (fun n : Nat => intText n) ++
      (t.offset.map fun o => [shownOffset o]).getD [])

def shownByte (quote : Char) (b : UInt8) : List Char :=
  let c := Char.ofNat b.toNat
  if c = quote ∨ c = '\\' then ['\\', c]
  else if c = '\n' then ['\\', 'n']
  else if c = '\r' then ['\\', 'r']
  else if c = '\t' then ['\\', 't']
  else if 32 ≤ b.toNat ∧ b.toNat < 127 then [c]
  else '\\' :: 'x' :: Text.hex 2 b.toNat

def shownBytes (content : List UInt8) : List Char :=
  let quote := Text.displayQuote (content.map fun b => Char.ofNat b.toNat)
  'b' :: quote :: content.flatMap (shownByte quote) ++ [quote]

namespace Node

inductive Bracket
  | square
  | brace
  deriving DecidableEq, Repr

def Bracket.dots : Bracket → List Char
  | .square => "[...]".toList
  | .brace => ['\x7b', '.', '.', '.', '\x7d']

mutual
def shown (around : List Bracket) : Node → List Char
  | .null => "None".toList
  | .bool b => if b then "True".toList else "False".toList
  | .int n => intText n
  | .float x => Decimal.text Decimal.shortWords x
  | .str s => Text.display s.toList
  | .date d => d.shown
  | .datetime t => t.shown
  | .bytes content => shownBytes content
  | .set [] => "set()".toList
  | .set items => '\x7b' :: commaJoined (shownList (.brace :: around) items) ++ ['\x7d']
  | .pair a b =>
    '(' :: a.shown (.square :: around) ++ ',' :: ' ' :: b.shown (.square :: around) ++ [')']
  | .list items => '[' :: commaJoined (shownList (.square :: around) items) ++ [']']
  | .map entries => '\x7b' :: commaJoined (shownEntries (.brace :: around) entries) ++ ['\x7d']
  | .link _ => []
  | .enclosing n => ((around[n - 1]?).map Bracket.dots).getD []
termination_by structural n => n
def shownList (around : List Bracket) : List Node → List (List Char)
  | [] => []
  | n :: rest => n.shown around :: shownList around rest
termination_by structural n => n
def shownEntries (around : List Bracket) : List (Node × Node) → List (List Char)
  | [] => []
  | (k, v) :: rest =>
    (k.shown around ++ ':' :: ' ' :: v.shown around) :: shownEntries around rest
termination_by structural n => n
end

def quotedText (n : Node) : String := String.ofList (n.shown [])

mutual
def writable : Node → Bool
  | .int n => !isLong n
  | .set items => writableList items
  | .pair a b => a.writable && b.writable
  | .list items => writableList items
  | .map entries => writableEntries entries
  | _ => true
termination_by structural n => n
def writableList : List Node → Bool
  | [] => true
  | n :: rest => n.writable && writableList rest
termination_by structural n => n
def writableEntries : List (Node × Node) → Bool
  | [] => true
  | (k, v) :: rest => k.writable && v.writable && writableEntries rest
termination_by structural n => n
end

def plainText : Node → String
  | .str s => s
  | .date d => String.ofList d.text
  | .datetime t => String.ofList (t.text ' ')
  | n => n.quotedText

end Node
end ClientGen
