import ClientGen.Decimal.Text
import ClientGen.Fault
import ClientGen.Text.Alphanumeric
import ClientGen.Text.Integer
import ClientGen.Text.Unescaped

/-! A template as a row of texts and tags. Expressions stand between double braces, statements
between a brace and a percent sign. The line end right after a statement falls away, and so do
blanks that stand alone before it on its line; a minus sign at the edge of a tag takes all blanks
there. -/
namespace ClientGen.Template

inductive Lexeme
  | name (s : String)
  | text (s : String)
  | number (n : Nat)
  | decimal (x : Float)
  | mark (s : String)
  deriving Repr, Inhabited

structure Tag where
  lexemes : List Lexeme
  lines : List Nat
  deriving Repr, Inhabited

inductive Segment
  | text (s : List Char)
  | output (tag : Tag)
  | statement (tag : Tag)
  deriving Repr, Inhabited

abbrev Reading := Except TemplateFault

def badGrammar {α : Type} : Reading α := .error .grammar

def Tag.lineAt (tag : Tag) (left : Nat) : Nat := tag.lines.getD (tag.lines.length - left) 1

def quotedText (quote : Char) : List Char → List Char → Reading (List Char × List Char)
  | _, [] => badGrammar
  | done, '\\' :: c :: rest => quotedText quote (c :: '\\' :: done) rest
  | done, c :: rest =>
    if c = quote then .ok (done.reverse, rest) else quotedText quote (c :: done) rest

def isNameStart (c : Char) : Bool := Text.isWord c && !Text.isDecimal c

def marks : List String :=
  ["==", "!=", ">=", "<=", "//", "**", "+", "-", "/", "*", "%", "~", "[", "]", "(", ")", "<", ">",
    "=", ".", ":", "|", ",", ";", "\x7b", "\x7d"]

def digitRun (isDigit : Char → Bool) : List Char → List Char
  | [] => []
  | '_' :: c :: rest => if isDigit c then '_' :: c :: digitRun isDigit rest else []
  | c :: rest => if isDigit c then c :: digitRun isDigit rest else []

def plainRun (s : List Char) : List Char :=
  if s.head? = some '_' then [] else digitRun Text.isAsciiDigit s

def valueOf (base : Nat) (digits : List Char) : Nat :=
  (digits.filterMap (Text.digitValue? base)).foldl (fun n d => n * base + d) 0

def exponentRun (s : List Char) : Option (Int × List Char) :=
  match s with
  | [] => none
  | e :: s =>
    let (negative, s) := match s with
      | '-' :: r => (true, r)
      | '+' :: r => (false, r)
      | r => (false, r)
    let digits := plainRun s
    if (e == 'e' || e == 'E') && !digits.isEmpty then
      let n : Int := valueOf 10 digits
      some (if negative then -n else n, s.drop digits.length)
    else none

def decimalLexeme? (s : List Char) : Option (Lexeme × List Char) :=
  let whole := plainRun s
  let behind := s.drop whole.length
  let fraction := match behind with
    | '.' :: r => plainRun r
    | _ => []
  let digits := valueOf 10 (whole ++ fraction)
  let places : Int := (fraction.filter Text.isAsciiDigit).length
  let rest := if fraction.isEmpty then behind else behind.drop (fraction.length + 1)
  match exponentRun rest with
  | some (exponent, rest) => some (.decimal (Decimal.nearest digits (exponent - places)), rest)
  | none =>
    if fraction.isEmpty then none else some (.decimal (Decimal.nearest digits (-places)), rest)

/-- A whole number, in base ten unless a mark of the base stands behind a zero, and what follows.
Behind a zero there are but zeros. -/
def numberLexeme (s : List Char) : Lexeme × List Char :=
  let plain := if s.head? = some '0' then digitRun (· == '0') s else plainRun s
  let inBase := match s with
    | '0' :: mark :: rest =>
      [2, 8, 16].findSome? fun base =>
        let digits := digitRun (fun c => (Text.digitValue? base c).isSome) rest
        if (Text.baseLead base).contains mark && !digits.isEmpty then some (base, digits) else none
    | _ => none
  match inBase with
  | some (base, digits) => (.number (valueOf base digits), s.drop (digits.length + 2))
  | none => (.number (valueOf 10 plain), s.drop plain.length)

def lexeme (afterPoint : Bool) (s : List Char) : Reading (Lexeme × List Char) :=
  match s with
  | [] => badGrammar
  | c :: rest =>
    if c = '\'' ∨ c = '"' then do
      let (inside, rest) ← quotedText c [] rest
      match Text.resolved? inside with
      | some text => return (.text (String.ofList text), rest)
      | none => badGrammar
    else if isNameStart c then
      let name := s.takeWhile Text.isWord
      .ok (.name (String.ofList name), s.drop name.length)
    else if Text.isAsciiDigit c then
      let decimal := if afterPoint then none else decimalLexeme? s
      .ok (decimal.getD (numberLexeme s))
    else match marks.find? fun m => m.toList.isPrefixOf s with
      | some m => .ok (.mark m, s.drop m.length)
      | none => badGrammar

def isBlank (c : Char) : Bool := Text.isSpace c

def lineEnds (s rest : List Char) : Nat := (s.take (s.length - rest.length)).count '\n'

def tagFrom (close : List Char → Option (List Char)) :
    Nat → Nat → Bool → List Char → Reading (Tag × List Char)
  | 0, _, _, _ => badGrammar
  | fuel + 1, line, afterPoint, s =>
    match close s with
    | some rest => .ok (⟨[], []⟩, rest)
    | none =>
      match s with
      | [] => badGrammar
      | c :: rest =>
        if isBlank c then
          tagFrom close fuel (if c = '\n' then line + 1 else line) false rest
        else do
          let (l, rest) ← lexeme afterPoint s
          let (tag, after) ← tagFrom close fuel (line + lineEnds s rest) (c == '.') rest
          return (⟨l :: tag.lexemes, line :: tag.lines⟩, after)

def closeOutput : List Char → Option (List Char)
  | '-' :: '\x7d' :: '\x7d' :: rest => some (rest.dropWhile isBlank)
  | '\x7d' :: '\x7d' :: rest => some rest
  | _ => none

def closeBlock (mark : Char) : List Char → Option (List Char)
  | '+' :: c :: '\x7d' :: rest => if c = mark then some rest else none
  | '-' :: c :: '\x7d' :: rest => if c = mark then some (rest.dropWhile isBlank) else none
  | c :: '\x7d' :: rest =>
    if c = mark then some (match rest with | '\n' :: r => r | r => r) else none
  | _ => none

def skipComment : Nat → List Char → Reading (List Char)
  | 0, _ => badGrammar
  | fuel + 1, s =>
    match closeBlock '#' s, s with
    | some rest, _ => .ok rest
    | none, _ :: rest => skipComment fuel rest
    | none, [] => badGrammar

def untilTag : List Char → List Char → List Char × Option (Char × List Char)
  | done, [] => (done.reverse, none)
  | done, '\x7b' :: c :: rest =>
    if c = '%' ∨ c = '#' ∨ c = '\x7b' then (done.reverse, some (c, rest))
    else untilTag ('\x7b' :: done) (c :: rest)
  | done, c :: rest => untilTag (c :: done) rest

def dropTrailing (p : Char → Bool) (s : List Char) : List Char :=
  (s.reverse.dropWhile p).reverse

def dropIndent (atStart : Bool) (s : List Char) : List Char :=
  let lastLine := (s.reverse.takeWhile (· ≠ '\n')).reverse
  let whole := lastLine.length < s.length
  if (whole || atStart) && lastLine.all isBlank then s.take (s.length - lastLine.length) else s

def trimBefore (kind : Char) (sign : Option Char) (atStart : Bool) (s : List Char) : List Char :=
  if sign = some '-' then dropTrailing isBlank s
  else if sign = some '+' ∨ kind = '\x7b' then s
  else dropIndent atStart s

def endsLine (before after : List Char) : Bool :=
  (before.take (before.length - after.length)).getLast? == some '\n'

def textSegment (s : List Char) : List Segment := if s.isEmpty then [] else [.text s]

def segments : Nat → Nat → Bool → List Char → Reading (List Segment)
  | 0, _, _, _ => .ok []
  | fuel + 1, line, atStart, s =>
    match untilTag [] s with
    | (before, none) => .ok (textSegment before)
    | (before, some (kind, inside)) => do
      let sign := match inside with
        | '-' :: _ => some '-'
        | '+' :: _ => some '+'
        | _ => none
      let body := if sign.isSome then inside.drop 1 else inside
      let lead := textSegment (trimBefore kind sign atStart before)
      let line := line + before.count '\n'
      let more := fun rest => segments fuel (line + lineEnds body rest) (endsLine body rest) rest
      match kind with
      | '\x7b' =>
        let (tag, rest) ← tagFrom closeOutput (body.length + 1) line false body
        return lead ++ .output tag :: (← more rest)
      | '%' =>
        let (tag, rest) ← tagFrom (closeBlock '%') (body.length + 1) line false body
        return lead ++ .statement tag :: (← more rest)
      | _ =>
        let rest ← skipComment (body.length + 1) body
        return lead ++ (← more rest)

end ClientGen.Template
