import ClientGen.Yaml.Lexeme

/-! Tokens of a YAML text. Indentation opens and closes block collections, and a key is recognised
only at its colon: every place where a key may start is remembered, and the tokens that open the
key are inserted there later. A remembered key must stay on its line and within 1024 characters. -/
namespace ClientGen.Yaml

inductive Token
  | directive (d : Directive)
  | documentStart
  | documentEnd
  | blockSequenceStart
  | blockMappingStart
  | blockEnd
  | flowSequenceStart
  | flowSequenceEnd
  | flowMappingStart
  | flowMappingEnd
  | blockEntry
  | flowEntry
  | key
  | value
  | alias (name : String)
  | anchor (name : String)
  | tag (t : TagText)
  | scalar (text : String) (plain : Bool)
  /-- Here the text holds a character or number that cannot be; what stands before is whole. -/
  | broken (f : Failure)
  deriving DecidableEq, Repr

structure KeyPlace where
  position : Nat
  required : Bool
  index : Nat
  line : Nat
  column : Nat

structure Scanner where
  cursor : Cursor
  tokens : Array Token
  indent : Int
  indents : List Int
  flow : Nat
  keyAllowed : Bool
  keys : List (Nat × KeyPlace)
  finished : Bool

namespace Scanner

def ofText (s : List Char) : Scanner :=
  { cursor := Cursor.ofText s, tokens := #[], indent := -1, indents := [], flow := 0,
    keyAllowed := true, keys := [], finished := false }

def push (s : Scanner) (t : Token) : Scanner := { s with tokens := s.tokens.push t }

def allowKey (s : Scanner) (b : Bool) : Scanner := { s with keyAllowed := b }

def inFlow (s : Scanner) : Bool := s.flow != 0

def skipToToken : Nat → Scanner → Scanner
  | 0, s => s
  | fuel + 1, s =>
    let c := s.cursor.skipSpaces
    let c := if c.head = some '#' then c.skipLine else c
    match c.lineBreak? with
    | some (_, c) =>
      skipToToken fuel { s with cursor := c, keyAllowed := s.keyAllowed || !s.inFlow }
    | none => { s with cursor := c }

def skipByteOrderMark (s : Scanner) : Scanner :=
  if s.cursor.index = 0 ∧ s.cursor.head = some '\ufeff' then { s with cursor := s.cursor.step }
  else s

def isStale (c : Cursor) (k : KeyPlace) : Bool :=
  k.line != c.line || decide (k.index + 1024 < c.index)

def dropStaleKeys (s : Scanner) : Result Scanner :=
  if s.keys.any fun k => isStale s.cursor k.2 && k.2.required then reject
  else .ok { s with keys := s.keys.filter fun k => !isStale s.cursor k.2 }

def forgetKey (s : Scanner) : Result Scanner :=
  if s.keys.any fun k => k.1 == s.flow && k.2.required then reject
  else .ok { s with keys := s.keys.filter fun k => k.1 != s.flow }

def rememberKey (s : Scanner) : Result Scanner :=
  if s.keyAllowed then do
    let s ← s.forgetKey
    let c := s.cursor
    let required := !s.inFlow && decide (s.indent = (c.column : Int))
    let place : KeyPlace := ⟨s.tokens.size, required, c.index, c.line, c.column⟩
    return { s with keys := (s.flow, place) :: s.keys }
  else .ok s

def closeIndents (column : Int) : Nat → Scanner → Scanner
  | 0, s => s
  | fuel + 1, s =>
    if column < s.indent then
      closeIndents column fuel
        { s with indent := s.indents.head?.getD (-1), indents := s.indents.tail,
                 tokens := s.tokens.push .blockEnd }
    else s

def unwind (s : Scanner) (column : Int) : Scanner :=
  if s.inFlow then s else closeIndents column (s.indents.length + 1) s

def openAt (s : Scanner) (column : Nat) (t : Token) (position : Nat) : Scanner :=
  if s.indent < column then
    { s with indent := column, indents := s.indent :: s.indents,
             tokens := s.tokens.insertIdx! position t }
  else s

def forward (s : Scanner) (n : Nat) : Scanner := { s with cursor := s.cursor.forward n }

def endStream (s : Scanner) : Result Scanner := do
  let s ← (s.unwind (-1)).forgetKey
  return { s with keys := [], keyAllowed := false, finished := true }

def scanDirective (s : Scanner) : Result Scanner := do
  let s ← (s.unwind (-1)).forgetKey
  let (d, c) ← directive s.cursor
  return { (s.allowKey false).push (.directive d) with cursor := c }

def scanMarker (t : Token) (s : Scanner) : Result Scanner := do
  let s ← (s.unwind (-1)).forgetKey
  return ((s.allowKey false).push t).forward 3

def openFlow (t : Token) (s : Scanner) : Result Scanner := do
  let s ← s.rememberKey
  return ({ s with flow := s.flow + 1, keyAllowed := true }.push t).forward 1

def closeFlow (t : Token) (s : Scanner) : Result Scanner := do
  let s ← s.forgetKey
  return ({ s with flow := s.flow - 1, keyAllowed := false }.push t).forward 1

def scanFlowEntry (s : Scanner) : Result Scanner := do
  let s ← (s.allowKey true).forgetKey
  return (s.push .flowEntry).forward 1

def scanBlockEntry (s : Scanner) : Result Scanner := do
  if !s.inFlow && !s.keyAllowed then reject
  let s := if s.inFlow then s else s.openAt s.cursor.column .blockSequenceStart s.tokens.size
  let s ← (s.allowKey true).forgetKey
  return (s.push .blockEntry).forward 1

def scanKey (s : Scanner) : Result Scanner := do
  if !s.inFlow && !s.keyAllowed then reject
  let s := if s.inFlow then s else s.openAt s.cursor.column .blockMappingStart s.tokens.size
  let s ← (s.allowKey (!s.inFlow)).forgetKey
  return (s.push .key).forward 1

def scanValue (s : Scanner) : Result Scanner :=
  match s.keys.find? fun k => k.1 == s.flow with
  | some (_, place) =>
    let s := { s with keys := s.keys.filter fun k => k.1 != s.flow }
    let s := { s with tokens := s.tokens.insertIdx! place.position .key }
    let s := if s.inFlow then s else s.openAt place.column .blockMappingStart place.position
    .ok (((s.allowKey false).push .value).forward 1)
  | none => do
    if !s.inFlow && !s.keyAllowed then reject
    let s := if s.inFlow then s else s.openAt s.cursor.column .blockMappingStart s.tokens.size
    let s ← (s.allowKey (!s.inFlow)).forgetKey
    return (s.push .value).forward 1

def scanAlias (s : Scanner) : Result Scanner := do
  let s ← s.rememberKey
  let (name, c) ← anchorName s.cursor
  return { (s.allowKey false).push (.alias name) with cursor := c }

def scanAnchor (s : Scanner) : Result Scanner := do
  let s ← s.rememberKey
  let (name, c) ← anchorName s.cursor
  return { (s.allowKey false).push (.anchor name) with cursor := c }

def scanTag (s : Scanner) : Result Scanner := do
  let s ← s.rememberKey
  let (t, c) ← tagText s.cursor
  return { (s.allowKey false).push (.tag t) with cursor := c }

def scanBlock (folded : Bool) (s : Scanner) : Result Scanner := do
  let s ← (s.allowKey true).forgetKey
  let (text, c) ← blockScalar folded s.indent s.cursor
  return { s.push (.scalar (String.ofList text) false) with cursor := c }

def scanQuoted (double : Bool) (s : Scanner) : Result Scanner := do
  let s ← s.rememberKey
  let (text, c) ← quotedScalar double s.cursor
  return { (s.allowKey false).push (.scalar (String.ofList text) false) with cursor := c }

def scanPlain (s : Scanner) : Result Scanner := do
  let s ← s.rememberKey
  let (text, breaks, c) := plainScalar s.inFlow (s.indent + 1) s.cursor
  return { (s.allowKey breaks).push (.scalar (String.ofList text) true) with cursor := c }

def startsPlain (inFlow : Bool) (x : Char) (next : Option Char) : Bool :=
  !(endsWord (some x) || "-?:,[]\x7b\x7d#&*!|>'\"%@`".toList.contains x) ||
    (!endsWord next && (x == '-' || (!inFlow && (x == '?' || x == ':'))))

def scanOther (x : Char) (s : Scanner) : Result Scanner :=
  let next := s.cursor.peek 1
  if x == '-' && endsWord next then s.scanBlockEntry
  else if x == '?' && (s.inFlow || endsWord next) then s.scanKey
  else if x == ':' && (s.inFlow || endsWord next) then s.scanValue
  else match x with
    | '*' => s.scanAlias
    | '&' => s.scanAnchor
    | '!' => s.scanTag
    | '\'' => s.scanQuoted false
    | '"' => s.scanQuoted true
    | _ =>
      if x == '|' && !s.inFlow then s.scanBlock false
      else if x == '>' && !s.inFlow then s.scanBlock true
      else if startsPlain s.inFlow x next then s.scanPlain
      else reject

def next (s : Scanner) : Result Scanner := do
  let s := (s.skipByteOrderMark).skipToToken (s.cursor.rest.length + 1)
  let s ← s.dropStaleKeys
  let s := s.unwind s.cursor.column
  match s.cursor.head with
  | none => s.endStream
  | some x =>
    if x == '%' && s.cursor.column == 0 then s.scanDirective
    else if s.cursor.column == 0 && s.cursor.atMarker '-' then s.scanMarker .documentStart
    else if s.cursor.column == 0 && s.cursor.atMarker '.' then s.scanMarker .documentEnd
    else match x with
      | '[' => s.openFlow .flowSequenceStart
      | '\x7b' => s.openFlow .flowMappingStart
      | ']' => s.closeFlow .flowSequenceEnd
      | '\x7d' => s.closeFlow .flowMappingEnd
      | ',' => s.scanFlowEntry
      | x => s.scanOther x

def settledTokens (s : Scanner) : List Token :=
  let places := (s.keys.filter fun k => !isStale s.cursor k.2).map (·.2.position)
  s.tokens.toList.take (places.foldl min s.tokens.size)

def run : Nat → Scanner → Result (List Token)
  | 0, _ => reject
  | fuel + 1, s =>
    match s.next with
    | .error .malformed => reject
    | .error failure => .ok (s.settledTokens ++ [.broken failure])
    | .ok s => if s.finished then .ok s.tokens.toList else run fuel s

end Scanner

def isAllowed (c : Char) : Bool :=
  c == '\t' || c == '\n' || c == '\r' || c == '\x85' ||
    decide ((0x20 ≤ c.toNat ∧ c.toNat ≤ 0x7e) ∨ (0xa0 ≤ c.toNat ∧ c.toNat ≤ 0xfffd) ∨
      0x10000 ≤ c.toNat)

def tokens (s : List Char) : Result (List Token) :=
  if s.all isAllowed then (Scanner.ofText s).run (s.length + 2) else reject

end ClientGen.Yaml
