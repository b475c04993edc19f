import ClientGen.Levels
import ClientGen.Node.Same
import ClientGen.Text.Bytes

/-! Reading JSON text. A failure names what was wrong and the position, counted in characters from
the start of the text. Beside the standard grammar the words `NaN`, `Infinity` and `-Infinity` are
numbers; of two members with one name the first gives the place and the last the value. -/
namespace ClientGen.Json

inductive Problem
  | byteOrderMark
  | value
  | propertyName
  | colon
  | comma
  | unterminated
  | control
  | escape
  | unicodeEscape
  | extra
  | hugeInteger (digits : Nat)
  | nesting
  deriving DecidableEq, Repr

structure Failure where
  problem : Problem
  position : Nat
  deriving DecidableEq, Repr

abbrev Reading := Except Failure

structure Cursor where
  rest : List Char
  position : Nat

def Cursor.advance (c : Cursor) (n : Nat) : Cursor := ⟨c.rest.drop n, c.position + n⟩

def isBlank (c : Char) : Bool := c == ' ' || c == '\t' || c == '\n' || c == '\r'

def Cursor.skipBlanks (c : Cursor) : Cursor := c.advance (c.rest.takeWhile isBlank).length

def isDigit (c : Char) : Bool := decide ('0' ≤ c ∧ c ≤ '9')

def digitsValue (ds : List Char) : Nat := ds.foldl (fun n d => n * 10 + (d.toNat - 48)) 0

def unit? : List Char → Option Nat
  | a :: b :: c :: d :: _ :: _ => do
    let a ← Text.hexValue? a
    let b ← Text.hexValue? b
    let c ← Text.hexValue? c
    let d ← Text.hexValue? d
    return ((a * 16 + b) * 16 + c) * 16 + d
  | _ => none

def isHighUnit (n : Nat) : Bool := decide (0xd800 ≤ n ∧ n < 0xdc00)

def isLowUnit (n : Nat) : Bool := decide (0xdc00 ≤ n ∧ n < 0xe000)

/-- The character of a unit on its own; half of a pair has none. -/
def unitChar (n : Nat) : Char := if 0xd800 ≤ n ∧ n < 0xe000 then '\ufffd' else Char.ofNat n

def simpleEscape? (c : Char) : Option Char :=
  match c with
  | '"' => some '"'
  | '\\' => some '\\'
  | '/' => some '/'
  | 'b' => some '\x08'
  | 'f' => some '\x0c'
  | 'n' => some '\n'
  | 'r' => some '\r'
  | 't' => some '\t'
  | _ => none

/-- What the escape `\u` in front of some text stands for, and how many characters it takes; two
halves of a pair are one character. A failure tells how far behind the backslash it is. -/
def escapedUnit (after : List Char) : Except Nat (Char × Nat) :=
  match unit? after with
  | none => .error 1
  | some high =>
    match isHighUnit high, after.drop 4 with
    | true, '\\' :: 'u' :: more =>
      if (more.drop 4).isEmpty then .ok (unitChar high, 6)
      else match unit? more with
        | none => .error 7
        | some low =>
          if isLowUnit low then
            .ok (Char.ofNat (0x10000 + (high - 0xd800) * 0x400 + (low - 0xdc00)), 12)
          else .ok (unitChar high, 6)
    | _, _ => .ok (unitChar high, 6)

def readString (start : Nat) : Nat → Cursor → List Char → Reading (List Char × Cursor)
  | 0, _, _ => .error ⟨.unterminated, start⟩
  | fuel + 1, c, done =>
    match c.rest with
    | [] => .error ⟨.unterminated, start⟩
    | '"' :: _ => .ok (done.reverse, c.advance 1)
    | '\\' :: [] => .error ⟨.unterminated, start⟩
    | '\\' :: 'u' :: after =>
      match escapedUnit after with
      | .error offset => .error ⟨.unicodeEscape, c.position + offset⟩
      | .ok (x, taken) => readString start fuel (c.advance taken) (x :: done)
    | '\\' :: e :: _ =>
      match simpleEscape? e with
      | some x => readString start fuel (c.advance 2) (x :: done)
      | none => .error ⟨.escape, c.position⟩
    | x :: _ =>
      if x.toNat < 32 then .error ⟨.control, c.position⟩
      else readString start fuel (c.advance 1) (x :: done)

structure Numeral where
  negative : Bool
  whole : List Char
  fraction : List Char
  exponent : Option (Bool × List Char)
  length : Nat

def Numeral.isInteger (n : Numeral) : Bool := n.fraction.isEmpty && n.exponent.isNone

def takeFraction : List Char → List Char
  | '.' :: rest => rest.takeWhile isDigit
  | _ => []

def takeExponent : List Char → Option (Bool × List Char) × Nat
  | e :: rest =>
    if e = 'e' ∨ e = 'E' then
      let (negative, unsigned, lead) := match rest with
        | '-' :: r => (true, r, 2)
        | '+' :: r => (false, r, 2)
        | r => (false, r, 1)
      let ds := unsigned.takeWhile isDigit
      if ds.isEmpty then (none, 0) else (some (negative, ds), lead + ds.length)
    else (none, 0)
  | [] => (none, 0)

def takeNumeral? (s : List Char) : Option Numeral :=
  let (negative, unsigned, lead) := match s with
    | '-' :: r => (true, r, 1)
    | r => (false, r, 0)
  let whole := match unsigned with
    | '0' :: _ => ['0']
    | r => r.takeWhile isDigit
  if whole.isEmpty then none
  else
    let afterWhole := unsigned.drop whole.length
    let fraction := takeFraction afterWhole
    let point := if fraction.isEmpty then 0 else fraction.length + 1
    let (exponent, tail) := takeExponent (afterWhole.drop point)
    some ⟨negative, whole, fraction, exponent, lead + whole.length + point + tail⟩

def Numeral.toFloat (n : Numeral) : Float :=
  let shift : Int := match n.exponent with
    | none => 0
    | some (negative, ds) => if negative then -(digitsValue ds : Int) else digitsValue ds
  let magnitude := Decimal.nearest (digitsValue (n.whole ++ n.fraction))
    (shift - (n.fraction.length : Int))
  if n.negative then -magnitude else magnitude

def digitLimit : Nat := 4300

def Numeral.toNode (n : Numeral) (position : Nat) : Reading Node :=
  if n.isInteger then
    if n.whole.length > digitLimit then .error ⟨.hugeInteger n.whole.length, position⟩
    else
      let magnitude : Int := digitsValue n.whole
      .ok (.int (if n.negative then -magnitude else magnitude))
  else .ok (.float n.toFloat)

def wordValues : List (List Char × Node) := [
  ("null".toList, .null), ("true".toList, .bool true), ("false".toList, .bool false),
  ("NaN".toList, .float (0.0 / 0.0)), ("Infinity".toList, .float (1.0 / 0.0)),
  ("-Infinity".toList, .float (-1.0 / 0.0))]

def startsWith (s lead : List Char) : Bool := lead.isPrefixOf s

def readScalar (c : Cursor) : Reading (Node × Cursor) :=
  match wordValues.find? fun w => startsWith c.rest w.1 with
  | some w => .ok (w.2, c.advance w.1.length)
  | none =>
    match takeNumeral? c.rest with
    | none => .error ⟨.value, c.position⟩
    | some n => do
      let value ← n.toNode c.position
      return (value, c.advance n.length)

def Cursor.enter (c : Cursor) (levels : Levels) : Reading Levels :=
  match levels.inner? with
  | some inner => .ok inner
  | none => .error ⟨.nesting, c.position⟩

mutual
def readValue : Nat → Levels → Cursor → Reading (Node × Cursor)
  | 0, _, c => .error ⟨.value, c.position⟩
  | fuel + 1, levels, c =>
    match c.rest with
    | '"' :: _ => do
      let (s, c') ← readString c.position fuel (c.advance 1) []
      return (.str (String.ofList s), c')
    | '\x7b' :: _ => do
      let inner ← c.enter levels
      let c := (c.advance 1).skipBlanks
      match c.rest with
      | '\x7d' :: _ => return (.map [], c.advance 1)
      | _ => readMembers fuel inner c []
    | '[' :: _ => do
      let inner ← c.enter levels
      let c := (c.advance 1).skipBlanks
      match c.rest with
      | ']' :: _ => return (.list [], c.advance 1)
      | _ => readItems fuel inner c []
    | _ => readScalar c
def readItems : Nat → Levels → Cursor → List Node → Reading (Node × Cursor)
  | 0, _, c, _ => .error ⟨.value, c.position⟩
  | fuel + 1, levels, c, done => do
    let (item, c) ← readValue fuel levels c
    let c := c.skipBlanks
    match c.rest with
    | ']' :: _ => return (.list (item :: done).reverse, c.advance 1)
    | ',' :: _ => readItems fuel levels (c.advance 1).skipBlanks (item :: done)
    | _ => .error ⟨.comma, c.position⟩
def readMembers : Nat → Levels → Cursor → List (Node × Node) → Reading (Node × Cursor)
  | 0, _, c, _ => .error ⟨.value, c.position⟩
  | fuel + 1, levels, c, done =>
    match c.rest with
    | '"' :: _ => do
      let (key, c) ← readString c.position fuel (c.advance 1) []
      let c := c.skipBlanks
      match c.rest with
      | ':' :: _ =>
        let (value, c) ← readValue fuel levels (c.advance 1).skipBlanks
        let c := c.skipBlanks
        let done := (.str (String.ofList key), value) :: done
        match c.rest with
        | '\x7d' :: _ => return (.map (Node.fromPairs done.reverse), c.advance 1)
        | ',' :: _ => readMembers fuel levels (c.advance 1).skipBlanks done
        | _ => .error ⟨.comma, c.position⟩
      | _ => .error ⟨.colon, c.position⟩
    | _ => .error ⟨.propertyName, c.position⟩
end

def readDocument (s : List Char) (levels : Levels := none) : Reading Node :=
  match s with
  | '\ufeff' :: _ => .error ⟨.byteOrderMark, 0⟩
  | _ => do
    let (value, c) ← readValue (2 * s.length + 2) levels (Cursor.skipBlanks ⟨s, 0⟩)
    let c := c.skipBlanks
    if c.rest.isEmpty then return value else .error ⟨.extra, c.position⟩

def Problem.message : Problem → String
  | .byteOrderMark => "Unexpected UTF-8 BOM (decode using utf-8-sig)"
  | .value => "Expecting value"
  | .propertyName => "Expecting property name enclosed in double quotes"
  | .colon => "Expecting ':' delimiter"
  | .comma => "Expecting ',' delimiter"
  | .unterminated => "Unterminated string starting at"
  | .control => "Invalid control character at"
  | .escape => "Invalid \\escape"
  | .unicodeEscape => "Invalid \\uXXXX escape"
  | .extra => "Extra data"
  | .hugeInteger digits =>
    "Exceeds the limit (4300 digits) for integer string conversion: value has " ++
      toString digits ++ " digits; use sys.set_int_max_str_digits() to increase the limit"
  | .nesting => "maximum recursion depth exceeded"

def lineColumn (s : List Char) (position : Nat) : Nat × Nat :=
  let before := s.take position
  (before.count '\n' + 1, (before.reverse.takeWhile (· ≠ '\n')).length + 1)

def Failure.message (s : List Char) (f : Failure) : String :=
  match f.problem with
  | .hugeInteger _ | .nesting => f.problem.message
  | _ =>
    let (line, column) := lineColumn s f.position
    f.problem.message ++ ": line " ++ toString line ++ " column " ++ toString column ++
      " (char " ++ toString f.position ++ ")"

end ClientGen.Json
