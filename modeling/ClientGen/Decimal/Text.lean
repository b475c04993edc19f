import ClientGen.Decimal.Shortest

/-! Written form of a double: the shortest digits, positional when the leading digit stands
between the fourth place after the point and the sixteenth before it, and otherwise with an
exponent of at least two digits. -/
namespace ClientGen.Decimal

def fractionSize : Nat := 0x10000000000000

def signBit : Nat := 0x8000000000000000

def binary? (x : Float) : Option Binary :=
  let bits : Nat := x.toBits.toNat
  let field : Nat := bits / fractionSize % 0x800
  let fraction : Nat := bits % fractionSize
  if field = 0x7ff then none
  else if field = 0 then if fraction = 0 then none else some ⟨fraction, -1074, false⟩
  else some ⟨fractionSize + fraction, (field : Int) - 1075, fraction == 0 && decide (1 < field)⟩

def isNegative (x : Float) : Bool := x.toBits.toNat / signBit == 1

def zeros (n : Nat) : List Char := List.replicate n '0'

def natText (n : Nat) : List Char := Nat.toDigits 10 n

def positional (ds : List Char) (point : Int) : List Char :=
  if point ≤ 0 then '0' :: '.' :: zeros (-point).toNat ++ ds
  else
    let whole := point.toNat
    if ds.length ≤ whole then ds ++ zeros (whole - ds.length) ++ ['.', '0']
    else ds.take whole ++ '.' :: ds.drop whole

def scientific (ds : List Char) (exponent : Int) : List Char :=
  let magnitude := natText exponent.natAbs
  let padded := if magnitude.length < 2 then '0' :: magnitude else magnitude
  let lead := match ds with
    | [] => []
    | [d] => [d]
    | d :: rest => d :: '.' :: rest
  lead ++ 'e' :: (if exponent < 0 then '-' else '+') :: padded

def Digits.text (d : Digits) : List Char :=
  let ds := natText d.digits
  let point : Int := ds.length + d.exponent
  if -4 < point ∧ point ≤ 16 then positional ds point else scientific ds (point - 1)

structure Specials where
  infinite : List Char
  notANumber : List Char

def text (specials : Specials) (x : Float) : List Char :=
  let sign := if isNegative x then ['-'] else []
  if x.isNaN then specials.notANumber
  else if x.isInf then sign ++ specials.infinite
  else match binary? x with
    | none => sign ++ ['0', '.', '0']
    | some b => sign ++ b.shortest.text

def shortWords : Specials := ⟨['i', 'n', 'f'], ['n', 'a', 'n']⟩

def longWords : Specials := ⟨"Infinity".toList, "NaN".toList⟩

def integer? (x : Float) : Option Int :=
  if x.isNaN || x.isInf then none
  else match binary? x with
    | none => some 0
    | some b =>
      let down := Nat.pow 2 (-b.exponent).toNat
      if b.mantissa % down = 0 then
        let magnitude : Int := (b.mantissa / down * Nat.pow 2 b.exponent.toNat : Nat)
        some (if isNegative x then -magnitude else magnitude)
      else none

def ceiling? (x : Float) : Option Int :=
  if x.isNaN || x.isInf then none
  else match binary? x with
    | none => some 0
    | some b =>
      let down := Nat.pow 2 (-b.exponent).toNat
      let magnitude := b.mantissa * Nat.pow 2 b.exponent.toNat
      some (if isNegative x then -(magnitude / down : Nat)
        else ((magnitude + down - 1) / down : Nat))

def nearest (digits : Nat) (exponent : Int) : Float :=
  if digits = 0 then 0.0
  else
    let magnitude : Int := digitCount digits + exponent
    if magnitude > 400 then 1.0 / 0.0
    else if magnitude < -400 then 0.0
    else if exponent < 0 then Float.ofScientific digits true exponent.natAbs
    else Float.ofScientific digits false exponent.natAbs

end ClientGen.Decimal
