/-! The shortest decimal that reads back as a given binary fraction. A finite double is
`mantissa * 2 ^ exponent`; the reals that round to it form an interval around it, whose ends
belong to it when the mantissa is even. On each decimal grid, coarsest first, the two grid points
around the value are tried, and the first grid with a point in the interval gives the digits. -/
namespace ClientGen.Decimal

/-- A positive value `mantissa * 2 ^ exponent`; `narrow` says that the gap below is half as wide. -/
structure Binary where
  mantissa : Nat
  exponent : Int
  narrow : Bool
  deriving DecidableEq, Repr

structure Digits where
  digits : Nat
  exponent : Int
  deriving DecidableEq, Repr

structure Interval where
  low : Nat
  value : Nat
  high : Nat
  denominator : Nat
  closed : Bool
  deriving Repr

def Binary.interval (b : Binary) : Interval :=
  let up := Nat.pow 2 b.exponent.toNat
  let down := Nat.pow 2 (-b.exponent).toNat
  { low := (4 * b.mantissa - if b.narrow then 1 else 2) * up
    value := 4 * b.mantissa * up
    high := (4 * b.mantissa + 2) * up
    denominator := 4 * down
    closed := b.mantissa % 2 == 0 }

def Interval.holds (i : Interval) (point : Nat) : Bool :=
  if i.closed then decide (i.low ≤ point ∧ point ≤ i.high)
  else decide (i.low < point ∧ point < i.high)

def Interval.onGrid (i : Interval) (exponent : Int) : Option Digits :=
  let scale := Nat.pow 10 (-exponent).toNat
  let step := i.denominator * Nat.pow 10 exponent.toNat
  let scaled : Interval :=
    { i with low := i.low * scale, value := i.value * scale, high := i.high * scale }
  let below := scaled.value / step
  let above := below + 1
  let toBelow := scaled.value - below * step
  let toAbove := above * step - scaled.value
  let belowHolds := scaled.holds (below * step) && decide (0 < below)
  let aboveHolds := scaled.holds (above * step)
  let preferBelow := decide (toBelow < toAbove) || (toBelow == toAbove && below % 2 == 0)
  if belowHolds && (preferBelow || !aboveHolds) then some ⟨below, exponent⟩
  else if aboveHolds then some ⟨above, exponent⟩
  else none

def Interval.search (i : Interval) (count : Nat) (exponent : Int) : Option Digits :=
  match count with
  | 0 => none
  | n + 1 =>
    match i.onGrid exponent with
    | some d => some d
    | none => i.search n (exponent - 1)

def digitCount (n : Nat) : Nat := (Nat.toDigits 10 n).length

def Interval.start (i : Interval) : Int :=
  (digitCount i.value : Int) - (digitCount i.denominator : Int) + 1

def dropZeros : Nat → Digits → Digits
  | 0, d => d
  | fuel + 1, d =>
    if d.digits % 10 = 0 ∧ d.digits ≠ 0 then dropZeros fuel ⟨d.digits / 10, d.exponent + 1⟩ else d

def Binary.shortest (b : Binary) : Digits :=
  match b.interval.search 20 b.interval.start with
  | some d => dropZeros 20 d
  | none => ⟨0, 0⟩

end ClientGen.Decimal
