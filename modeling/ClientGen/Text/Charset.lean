import ClientGen.Text.CodePage
import ClientGen.Text.LetterCase
import ClientGen.Text.Split

/-! Encodings of texts by the names they go under. What the bytes of a text cannot mean is replaced;
an encoding that is not known counts as the usual one of one to four bytes a character. -/
namespace ClientGen.Text

inductive ByteOrder
  | little
  | big
  deriving DecidableEq, Repr, Inhabited

inductive Charset
  | usual
  | usualMarked
  | ascii
  | latin
  | units16 (order : Option ByteOrder)
  | units32 (order : Option ByteOrder)
  | page (p : CodePage)
  deriving Repr, Inhabited

namespace Charset

def plainName (name : List Char) : List Char :=
  joinWith ['_'] (runs (fun c => isAsciiAlnum c || c == '.') (lower name))

def asciiNames : List String := [
  "ascii", "646", "ansi_x3.4_1968", "ansi_x3_4_1968", "ansi_x3.4_1986", "cp367", "csascii",
  "ibm367", "iso646_us", "iso_646.irv_1991", "iso_ir_6", "us", "us_ascii"]

def latinNames : List String := [
  "latin_1", "8859", "cp819", "csisolatin1", "ibm819", "iso8859", "iso8859_1", "iso_8859_1",
  "iso_8859_1_1987", "iso_ir_100", "l1", "latin", "latin1"]

def unitNames : List (String × Charset) := [
  ("utf_8_sig", .usualMarked), ("utf_16", .units16 none), ("u16", .units16 none),
  ("utf16", .units16 none), ("utf_16_le", .units16 (some .little)),
  ("unicodelittleunmarked", .units16 (some .little)), ("utf_16le", .units16 (some .little)),
  ("utf_16_be", .units16 (some .big)), ("unicodebigunmarked", .units16 (some .big)),
  ("utf_16be", .units16 (some .big)), ("utf_32", .units32 none), ("u32", .units32 none),
  ("utf32", .units32 none), ("utf_32_le", .units32 (some .little)),
  ("utf_32le", .units32 (some .little)), ("utf_32_be", .units32 (some .big)),
  ("utf_32be", .units32 (some .big))]

def named? (name : String) : Option Charset :=
  if asciiNames.contains name then some .ascii
  else if latinNames.contains name then some .latin
  else (unitNames.lookup name).or ((codePages.find? (·.names.contains name)).map .page)

def ofName (name : List Char) : Charset :=
  let name := plainName name
  let pointless := name.map fun c => if c = '.' then '_' else c
  ((named? (String.ofList name)).or (named? (String.ofList pointless))).getD .usual

def unitOf (order : ByteOrder) (bytes : List UInt8) : Nat :=
  let ordered := match order with
    | .big => bytes
    | .little => bytes.reverse
  ordered.foldl (fun n b => n * 256 + b.toNat) 0

def isHighHalf (n : Nat) : Bool := decide (0xd800 ≤ n ∧ n < 0xdc00)

def isLowHalf (n : Nat) : Bool := decide (0xdc00 ≤ n ∧ n < 0xe000)

def decode16 (order : ByteOrder) : Nat → List UInt8 → List Char
  | 0, _ => []
  | _, [] => []
  | _, [_] => ['\ufffd']
  | fuel + 1, a :: b :: rest =>
    let n := unitOf order [a, b]
    if isHighHalf n then
      match rest with
      | c :: d :: more =>
        let low := unitOf order [c, d]
        if isLowHalf low then
          Char.ofNat (0x10000 + (n - 0xd800) * 0x400 + (low - 0xdc00)) ::
            decode16 order fuel more
        else '\ufffd' :: decode16 order fuel rest
      | _ => ['\ufffd']
    else if isLowHalf n then '\ufffd' :: decode16 order fuel rest
    else Char.ofNat n :: decode16 order fuel rest

def decode32 (order : ByteOrder) : Nat → List UInt8 → List Char
  | 0, _ => []
  | fuel + 1, bytes =>
    if bytes.isEmpty then []
    else if bytes.length < 4 then ['\ufffd']
    else
      let n := unitOf order (bytes.take 4)
      (if n.isValidChar then Char.ofNat n else '\ufffd') :: decode32 order fuel (bytes.drop 4)

def markedOrder? (width : Nat) (bytes : List UInt8) : Option ByteOrder :=
  let mark := bytes.take width
  if mark.length < width then none
  else if unitOf .big mark = 0xfeff then some .big
  else if unitOf .little mark = 0xfeff then some .little
  else none

def decodeUnits? (width : Nat) (decode : ByteOrder → Nat → List UInt8 → List Char)
    (order : Option ByteOrder) (bytes : List UInt8) : Option (List Char) :=
  match order, markedOrder? width bytes with
  | some order, _ => some (decode order bytes.length bytes)
  | none, some order => some (decode order bytes.length (bytes.drop width))
  | none, none =>
    if bytes.isEmpty then some []
    else if bytes.length < width then some ['\ufffd']
    else none

def decode? (charset : Charset) (bytes : List UInt8) : Option (List Char) :=
  match charset with
  | .usual => some (decoded bytes)
  | .usualMarked =>
    match decoded bytes with
    | '\ufeff' :: rest => some rest
    | s => some s
  | .ascii => some (bytes.map fun b => if b < 0x80 then Char.ofNat b.toNat else '\ufffd')
  | .latin => some (bytes.map fun b => Char.ofNat b.toNat)
  | .units16 order => decodeUnits? 2 decode16 order bytes
  | .units32 order => decodeUnits? 4 decode32 order bytes
  | .page p => some (p.decode bytes)

end Charset
end ClientGen.Text
