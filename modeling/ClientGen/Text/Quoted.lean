import ClientGen.Text.Printable

/-! Two quoted forms of a text. The display form chooses the quote that needs no escape and shows
printable characters as they are; the JSON form always has double quotes. -/
namespace ClientGen.Text

def hexDigit (n : Nat) : Char := if n < 10 then Char.ofNat (48 + n) else Char.ofNat (87 + n)

def hex (width n : Nat) : List Char :=
  match width with
  | 0 => []
  | w + 1 => hexDigit (n / Nat.pow 16 w % 16) :: hex w n

def escapeHidden (c : Char) : List Char :=
  if c.toNat < 0x100 then '\\' :: 'x' :: hex 2 c.toNat
  else if c.toNat < 0x10000 then '\\' :: 'u' :: hex 4 c.toNat
  else '\\' :: 'U' :: hex 8 c.toNat

def escapeDisplay (quote c : Char) : List Char :=
  if c = quote ∨ c = '\\' then ['\\', c]
  else if c = '\n' then ['\\', 'n']
  else if c = '\r' then ['\\', 'r']
  else if c = '\t' then ['\\', 't']
  else if isPrintable c then [c]
  else escapeHidden c

def displayQuote (s : List Char) : Char :=
  if s.contains '\'' && !s.contains '"' then '"' else '\''

def display (s : List Char) : List Char :=
  let quote := displayQuote s
  quote :: s.flatMap (escapeDisplay quote) ++ [quote]

def jsonUnit (n : Nat) : List Char := '\\' :: 'u' :: hex 4 n

def escapeJson (asciiOnly : Bool) (c : Char) : List Char :=
  if c = '"' ∨ c = '\\' then ['\\', c]
  else if c = '\n' then ['\\', 'n']
  else if c = '\r' then ['\\', 'r']
  else if c = '\t' then ['\\', 't']
  else if c.toNat = 8 then ['\\', 'b']
  else if c.toNat = 12 then ['\\', 'f']
  else if c.toNat < 32 then jsonUnit c.toNat
  else if !asciiOnly || c.toNat < 127 then [c]
  else if c.toNat < 0x10000 then jsonUnit c.toNat
  else jsonUnit (0xd800 + (c.toNat - 0x10000) / 0x400) ++
    jsonUnit (0xdc00 + (c.toNat - 0x10000) % 0x400)

def jsonQuoted (asciiOnly : Bool) (s : List Char) : List Char :=
  '"' :: s.flatMap (escapeJson asciiOnly) ++ ['"']

def controlLetters : List (Char × Nat) := [('b', 8), ('t', 9), ('n', 10), ('f', 12), ('r', 13)]

inductive JsonWritten (asciiOnly : Bool) (c : Char) : List Char → Prop
  | marked (own : c = '"' ∨ c = '\\') : JsonWritten asciiOnly c ['\\', c]
  | lettered (letter : Char) (known : (letter, c.toNat) ∈ controlLetters) :
    JsonWritten asciiOnly c ['\\', letter]
  | plain (free : ¬(c = '"' ∨ c = '\\')) (shown : 32 ≤ c.toNat)
    (ascii : asciiOnly = true → c.toNat < 127) : JsonWritten asciiOnly c [c]
  | unit (single : c.toNat < 0x10000) : JsonWritten asciiOnly c (jsonUnit c.toNat)
  | units (double : ¬c.toNat < 0x10000) :
    JsonWritten asciiOnly c (jsonUnit (0xd800 + (c.toNat - 0x10000) / 0x400) ++
      jsonUnit (0xdc00 + (c.toNat - 0x10000) % 0x400))

theorem escapedWritten (asciiOnly : Bool) (c : Char) :
    JsonWritten asciiOnly c (escapeJson asciiOnly c) := by
  have named (letter d : Char) (known : (letter, d.toNat) ∈ controlLetters) (same : c = d) :
      JsonWritten asciiOnly c ['\\', letter] := .lettered letter (same ▸ known)
  unfold escapeJson
  refine iteInduction .marked fun free => ?_
  refine iteInduction (named 'n' '\n' (by decide)) fun _ => ?_
  refine iteInduction (named 'r' '\r' (by decide)) fun _ => ?_
  refine iteInduction (named 't' '\t' (by decide)) fun _ => ?_
  refine iteInduction (fun same => .lettered 'b' (by rw [same]; decide)) fun _ => ?_
  refine iteInduction (fun same => .lettered 'f' (by rw [same]; decide)) fun _ => ?_
  refine iteInduction (fun control => .unit (by omega)) fun shown => ?_
  refine iteInduction (fun few => .plain free (Nat.not_lt.mp shown) fun ascii => ?_) fun _ => ?_
  · simpa [ascii] using few
  · exact iteInduction .unit .units

end ClientGen.Text
