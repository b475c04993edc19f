import ClientGen.Fault
import ClientGen.Text.Alphanumeric

/-! A place in a YAML text, with its line and column. -/
namespace ClientGen.Yaml

inductive Failure
  | malformed
  | valueless (detail : String)
  | fault (cause : Fault)
  deriving DecidableEq, Repr

def digitLimit : Nat := 4300

def tooManyDigits (digits : Nat) : String :=
  "Exceeds the limit (4300 digits) for integer string conversion: value has " ++ toString digits ++
    " digits; use sys.set_int_max_str_digits() to increase the limit"

abbrev Result := Except Failure

def reject {α : Type} : Result α := .error .malformed

structure Cursor where
  rest : List Char
  index : Nat
  line : Nat
  column : Nat
  deriving Repr

def isBreak (c : Char) : Bool :=
  c == '\n' || c == '\r' || c == '\x85' || c == '\u2028' || c == '\u2029'

def endsLine : Option Char → Bool
  | none => true
  | some c => isBreak c

def endsEntry : Option Char → Bool
  | none => true
  | some c => c == ' ' || isBreak c

def endsWord : Option Char → Bool
  | none => true
  | some c => c == ' ' || c == '\t' || isBreak c

namespace Cursor

def ofText (s : List Char) : Cursor := ⟨s, 0, 0, 0⟩

def peek (c : Cursor) (n : Nat) : Option Char := c.rest[n]?

def head (c : Cursor) : Option Char := c.rest.head?

def startsLine (x : Char) (rest : List Char) : Bool :=
  x == '\n' || x == '\x85' || x == '\u2028' || x == '\u2029' ||
    (x == '\r' && rest.head? != some '\n')

def step (c : Cursor) : Cursor :=
  match c.rest with
  | [] => c
  | x :: rest =>
    if startsLine x rest then ⟨rest, c.index + 1, c.line + 1, 0⟩
    else ⟨rest, c.index + 1, c.line, if x = '\ufeff' then c.column else c.column + 1⟩

def forward : Nat → Cursor → Cursor
  | 0, c => c
  | n + 1, c => forward n c.step

def span (p : Char → Bool) (c : Cursor) : List Char × Cursor :=
  let run := c.rest.takeWhile p
  (run, c.forward run.length)

def skip (p : Char → Bool) (c : Cursor) : Cursor := (c.span p).2

def skipSpaces (c : Cursor) : Cursor := c.skip (· == ' ')

def skipLine (c : Cursor) : Cursor := c.skip (fun x => !isBreak x)

def lineBreak? (c : Cursor) : Option (Char × Cursor) :=
  match c.rest with
  | '\r' :: '\n' :: _ => some ('\n', c.forward 2)
  | x :: _ =>
    if x = '\u2028' ∨ x = '\u2029' then some (x, c.step)
    else if isBreak x then some ('\n', c.step)
    else none
  | [] => none

def atMarker (mark : Char) (c : Cursor) : Bool :=
  c.peek 0 == some mark && c.peek 1 == some mark && c.peek 2 == some mark && endsWord (c.peek 3)

def atDocumentEdge (c : Cursor) : Bool := c.atMarker '-' || c.atMarker '.'

end Cursor
end ClientGen.Yaml
