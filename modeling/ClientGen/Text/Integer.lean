import ClientGen.Text.Alphanumeric
import ClientGen.Text.Split

/-! Integers as a text spells them: digits of any script, single underscores between them, a sign,
blanks around the whole, and the mark of the base in front. -/
namespace ClientGen.Text

def trim (s : List Char) : List Char :=
  ((s.dropWhile isSpace).reverse.dropWhile isSpace).reverse

def digitValue? (base : Nat) (c : Char) : Option Nat :=
  let value : Option Nat := match decimalValue? c with
    | some n => some n
    | none =>
      if 'a' ≤ c ∧ c ≤ 'z' then some (c.toNat - 87)
      else if 'A' ≤ c ∧ c ≤ 'Z' then some (c.toNat - 55)
      else none
  value.filter (· < base)

def digitsFrom (base : Nat) (afterDigit : Bool) (value : Nat) : List Char → Option Nat
  | [] => if afterDigit then some value else none
  | c :: rest =>
    if c = '_' then if afterDigit then digitsFrom base false value rest else none
    else do digitsFrom base true (value * base + (← digitValue? base c)) rest

def baseLead (base : Nat) : List Char :=
  match base with
  | 2 => ['b', 'B']
  | 8 => ['o', 'O']
  | 16 => ['x', 'X']
  | _ => []

def integer? (base : Nat) (s : List Char) : Option Int :=
  let s := trim s
  let (negative, s) := match s with
    | '-' :: r => (true, r)
    | '+' :: r => (false, r)
    | r => (false, r)
  let s := match s with
    | '0' :: mark :: r =>
      if (baseLead base).contains mark then (match r with | '_' :: r => r | r => r) else s
    | r => r
  (digitsFrom base false 0 s).map fun n => if negative then -(n : Int) else n

end ClientGen.Text
