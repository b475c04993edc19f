import ClientGen.Fault
import ClientGen.Text.Alphanumeric
import ClientGen.Text.Quoted

/-! Paths with named segments. Every `{name}` of word characters is replaced by a pattern filled
with the name: in a pattern `%s` stands for the name, `%r` and `%a` for its quoted forms, `%c` for
a name of one character, and `%%` for a percent sign. A pattern takes the name exactly once. -/
namespace ClientGen.Naming

structure Layout where
  alignLeft : Bool
  width : Nat
  limit : Option Nat
  deriving DecidableEq, Repr

inductive Conversion
  | plain
  | quoted
  | quotedAscii
  | character
  deriving DecidableEq, Repr

inductive Piece
  | text (c : Char)
  | name (conversion : Conversion) (layout : Layout)
  | number
  | unknown
  | malformed
  deriving DecidableEq, Repr

def asciiDigits (s : List Char) : List Char := s.takeWhile Text.isAsciiDigit

def decimalNumber (ds : List Char) : Nat := ds.foldl (fun n d => n * 10 + (d.toNat - 48)) 0

def isFlag (c : Char) : Bool := c == '#' || c == '0' || c == '-' || c == ' ' || c == '+'

def conversion (layout : Layout) (c : Char) : Piece :=
  match c with
  | 's' => .name .plain layout
  | 'r' => .name .quoted layout
  | 'a' => .name .quotedAscii layout
  | 'c' => .name .character { layout with limit := none }
  | 'd' | 'i' | 'o' | 'u' | 'x' | 'X' | 'e' | 'E' | 'f' | 'F' | 'g' | 'G' => .number
  | _ => .unknown

def greatestWidth : Nat := 9223372036854775807

def greatestLimit : Nat := 2147483647

inductive Size
  | given (n length : Nat)
  | elsewhere
  | tooLarge

def sizeUpTo (greatest : Nat) : List Char → Size
  | '*' :: _ => .elsewhere
  | s =>
    let digits := asciiDigits s
    if greatest < decimalNumber digits then .tooLarge
    else .given (decimalNumber digits) digits.length

def lettered (layout : Layout) (s : List Char) : Piece × Nat :=
  let mark := match s with
    | 'h' :: _ | 'l' :: _ | 'L' :: _ => 1
    | _ => 0
  match s.drop mark with
  | c :: _ => (conversion layout c, mark + 1)
  | [] => (.malformed, mark)

def limited (alignLeft : Bool) (width : Nat) (s : List Char) : Piece × Nat :=
  match s with
  | '.' :: rest =>
    match sizeUpTo greatestLimit rest with
    | .elsewhere => (.number, s.length)
    | .tooLarge => (.malformed, s.length)
    | .given limit length =>
      let (piece, taken) := lettered ⟨alignLeft, width, some limit⟩ (rest.drop length)
      (piece, 1 + length + taken)
  | s => lettered ⟨alignLeft, width, none⟩ s

def pieceAfterPercent (s : List Char) : Piece × Nat :=
  match s with
  | '%' :: _ => (.text '%', 1)
  | '(' :: _ => (.number, s.length)
  | _ =>
    let flags := s.takeWhile isFlag
    match sizeUpTo greatestWidth (s.drop flags.length) with
    | .elsewhere => (.number, s.length)
    | .tooLarge => (.malformed, s.length)
    | .given width length =>
      let before := flags.length + length
      let (piece, taken) := limited (flags.contains '-') width (s.drop before)
      (piece, before + taken)

def pieces (fuel : Nat) (s : List Char) : List Piece :=
  match fuel, s with
  | 0, _ => []
  | _, [] => []
  | fuel + 1, '%' :: rest =>
    let (piece, taken) := pieceAfterPercent rest
    piece :: pieces fuel (rest.drop taken)
  | fuel + 1, c :: rest => .text c :: pieces fuel rest

def heldWidth : Nat := 68719476736

def Layout.apply (l : Layout) (s : List Char) : Except Fault (List Char) :=
  let s := match l.limit with
    | some n => s.take n
    | none => s
  if heldWidth < l.width then .error .outOfMemory
  else
    let padding := List.replicate (l.width - s.length) ' '
    .ok (if l.alignLeft then s ++ padding else padding ++ s)

def asciiOnly (s : List Char) : List Char :=
  s.flatMap fun c => if c.toNat < 128 then [c] else Text.escapeHidden c

def converted (kind : Conversion) (name : List Char) : Except Fault (List Char) :=
  match kind with
  | .plain => .ok name
  | .quoted => .ok (Text.display name)
  | .quotedAscii => .ok (asciiOnly (Text.display name))
  | .character => if name.length = 1 then .ok name else .error .wrongKind

def fillPieces (name : List Char) (used : Bool) : List Piece → Except Fault (List Char)
  | [] => if used then .ok [] else .error .wrongKind
  | .text c :: rest => do return c :: (← fillPieces name used rest)
  | .name kind layout :: rest =>
    if used then .error .wrongKind
    else do
      let shown ← converted kind name
      return (← layout.apply shown) ++ (← fillPieces name true rest)
  | .number :: _ => .error .wrongKind
  | .unknown :: _ => .error (if used then .wrongKind else .invalidValue)
  | .malformed :: _ => .error .invalidValue

def fill (pattern name : List Char) : Except Fault (List Char) :=
  fillPieces name false (pieces pattern.length pattern)

def segmentName? : List Char → Option (List Char)
  | '\x7b' :: rest =>
    let name := rest.takeWhile Text.isWord
    match name, rest.drop name.length with
    | [], _ => none
    | _, '\x7d' :: _ => some name
    | _, _ => none
  | _ => none

def fillPathFrom (fuel : Nat) (pattern : List Char) (rename : List Char → List Char)
    (s : List Char) : Except Fault (List Char) :=
  match fuel, s with
  | 0, _ => .ok []
  | _, [] => .ok []
  | fuel + 1, c :: rest =>
    match segmentName? (c :: rest) with
    | some name => do
      let filled ← fill pattern (rename name)
      return filled ++ (← fillPathFrom fuel pattern rename (rest.drop (name.length + 1)))
    | none => do
      return c :: (← fillPathFrom fuel pattern rename rest)

def fillPath (pattern : List Char) (rename : List Char → List Char) (path : List Char) :
    Except Fault (List Char) :=
  fillPathFrom path.length pattern rename path

end ClientGen.Naming
