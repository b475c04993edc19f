import ClientGen.Text.Quoted

/-! Bytes behind a text: the encoding of characters as one to four bytes, and percent escapes, which
spell a byte by two hexadecimal digits. Bytes that are no text are refused with a place and a cause,
or replaced stretch by stretch. -/
namespace ClientGen.Text

def hexValue? (c : Char) : Option Nat :=
  if '0' ≤ c ∧ c ≤ '9' then some (c.toNat - 48)
  else if 'a' ≤ c ∧ c ≤ 'f' then some (c.toNat - 87)
  else if 'A' ≤ c ∧ c ≤ 'F' then some (c.toNat - 55)
  else none

def encoded (s : List Char) : List UInt8 := (String.ofList s).toUTF8.toList

inductive ByteFlaw
  | start
  | continuation
  | cutOff
  deriving DecidableEq, Repr, Inhabited

def encodedLength? (b : UInt8) : Option (Nat × UInt8 × UInt8) :=
  if b < 0x80 then some (1, 0x80, 0xbf)
  else if 0xc2 ≤ b ∧ b < 0xe0 then some (2, 0x80, 0xbf)
  else if b = 0xe0 then some (3, 0xa0, 0xbf)
  else if b = 0xed then some (3, 0x80, 0x9f)
  else if 0xe0 < b ∧ b < 0xf0 then some (3, 0x80, 0xbf)
  else if b = 0xf0 then some (4, 0x90, 0xbf)
  else if 0xf0 < b ∧ b < 0xf4 then some (4, 0x80, 0xbf)
  else if b = 0xf4 then some (4, 0x80, 0x8f)
  else none

def continued (n : Nat) (low high : UInt8) (bytes : List UInt8) : Nat :=
  match n, bytes with
  | 0, _ => 0
  | _, [] => 0
  | n + 1, b :: rest => if low ≤ b ∧ b ≤ high then 1 + continued n 0x80 0xbf rest else 0

def codePoint (first : UInt8) (rest : List UInt8) : Nat :=
  let lead := match rest.length with
    | 0 => first.toNat
    | 1 => first.toNat % 32
    | 2 => first.toNat % 16
    | _ => first.toNat % 8
  rest.foldl (fun n b => n * 64 + b.toNat % 64) lead

def frontChar (b : UInt8) (rest : List UInt8) : Except ByteFlaw Char × Nat :=
  match encodedLength? b with
  | none => (.error .start, 0)
  | some (n, low, high) =>
    let found := continued (n - 1) low high rest
    if found = n - 1 then (.ok (Char.ofNat (codePoint b (rest.take found))), found)
    else if found = rest.length then (.error .cutOff, found)
    else (.error .continuation, found)

def decodedFrom : Nat → List UInt8 → List Char
  | 0, _ => []
  | _, [] => []
  | fuel + 1, b :: rest =>
    let (c, taken) := frontChar b rest
    (match c with
      | .ok c => c
      | .error _ => '\ufffd') :: decodedFrom fuel (rest.drop taken)

def decoded (bytes : List UInt8) : List Char := decodedFrom bytes.length bytes

structure Undecodable where
  flaw : ByteFlaw
  byte : UInt8
  position : Nat
  length : Nat
  deriving DecidableEq, Repr, Inhabited

def Undecodable.message (u : Undecodable) : String :=
  let last := u.position + u.length - 1
  let place :=
    if u.length = 1 then
      "byte 0x" ++ String.ofList (hex 2 u.byte.toNat) ++ " in position " ++ toString u.position
    else "bytes in position " ++ toString u.position ++ "-" ++ toString last
  let reason := match u.flaw with
    | .start => "invalid start byte"
    | .continuation => "invalid continuation byte"
    | .cutOff => "unexpected end of data"
  "'utf-8' codec can't decode " ++ place ++ ": " ++ reason

def textFrom : Nat → Nat → List UInt8 → Except Undecodable (List Char)
  | 0, _, _ => .ok []
  | _, _, [] => .ok []
  | fuel + 1, position, b :: rest =>
    match frontChar b rest with
    | (.ok c, taken) => do
      return c :: (← textFrom fuel (position + taken + 1) (rest.drop taken))
    | (.error flaw, taken) => .error ⟨flaw, b, position, taken + 1⟩

def text (bytes : List UInt8) : Except Undecodable (List Char) := textFrom bytes.length 0 bytes

def escapedByte? : List Char → Option (UInt8 × List Char)
  | '%' :: a :: b :: rest => do
    let a ← hexValue? a
    let b ← hexValue? b
    return ((a * 16 + b).toUInt8, rest)
  | _ => none

def unescapedFrom (fuel : Nat) (run : List UInt8) (s : List Char) : List Char :=
  let flushed := decoded run.reverse
  match fuel, s with
  | 0, _ => flushed
  | _, [] => flushed
  | fuel + 1, c :: rest =>
    match escapedByte? s with
    | some (b, after) => unescapedFrom fuel (b :: run) after
    | none => flushed ++ c :: unescapedFrom fuel [] rest

def unescaped (s : List Char) : List Char := unescapedFrom s.length [] s

def unescapedBytesFrom : Nat → List Char → List UInt8
  | 0, _ => []
  | _, [] => []
  | fuel + 1, c :: rest =>
    match escapedByte? (c :: rest) with
    | some (b, after) => b :: unescapedBytesFrom fuel after
    | none => encoded [c] ++ unescapedBytesFrom fuel rest

def unescapedBytes (s : List Char) : List UInt8 := unescapedBytesFrom s.length s

def upperHexDigit (n : Nat) : Char := if n < 10 then Char.ofNat (48 + n) else Char.ofNat (55 + n)

def escapeByte (b : UInt8) : List Char :=
  ['%', upperHexDigit (b.toNat / 16), upperHexDigit (b.toNat % 16)]

def escapedFrom (isSafe : Char → Bool) : Nat → List Char → List Char
  | 0, _ => []
  | _, [] => []
  | fuel + 1, c :: rest =>
    match escapedByte? (c :: rest) with
    | some (_, after) => (c :: rest.take 2) ++ escapedFrom isSafe fuel after
    | none =>
      (if isSafe c then [c] else (encoded [c]).flatMap escapeByte) ++ escapedFrom isSafe fuel rest

def escaped (isSafe : Char → Bool) (s : List Char) : List Char := escapedFrom isSafe s.length s

end ClientGen.Text
