import ClientGen.Decimal.Text

/-! Days and moments of the proleptic Gregorian calendar, as a document may hold them. -/
namespace ClientGen

structure Date where
  year : Nat
  month : Nat
  day : Nat
  deriving DecidableEq, Repr, Inhabited

structure DateTime where
  date : Date
  hour : Nat
  minute : Nat
  second : Nat
  micro : Nat
  offset : Option Int
  deriving DecidableEq, Repr, Inhabited

def isLeapYear (y : Nat) : Bool := y % 4 == 0 && (y % 100 != 0 || y % 400 == 0)

def daysInMonth (y m : Nat) : Nat :=
  match m with
  | 2 => if isLeapYear y then 29 else 28
  | 4 | 6 | 9 | 11 => 30
  | _ => 31

def daysBeforeMonth (y : Nat) : Nat → Nat
  | 0 => 0
  | 1 => let p := y - 1; 365 * p + p / 4 - p / 100 + p / 400
  | m + 1 => daysBeforeMonth y m + daysInMonth y m

def Date.ordinal (d : Date) : Nat := daysBeforeMonth d.year d.month + d.day

def DateTime.instant (t : DateTime) : Int :=
  let seconds : Int := ((t.date.ordinal * 24 + t.hour) * 60 + t.minute) * 60 + t.second
  (seconds - t.offset.getD 0) * 1000000 + t.micro

def DateTime.same (a b : DateTime) : Bool :=
  a.offset.isSome == b.offset.isSome && a.instant == b.instant

def padded (width n : Nat) : List Char :=
  let ds := Decimal.natText n
  Decimal.zeros (width - ds.length) ++ ds

def Date.text (d : Date) : List Char :=
  padded 4 d.year ++ '-' :: padded 2 d.month ++ '-' :: padded 2 d.day

def offsetText (seconds : Int) : List Char :=
  let n := seconds.natAbs
  let lead := (if seconds < 0 then '-' else '+') :: padded 2 (n / 3600) ++
    ':' :: padded 2 (n / 60 % 60)
  if n % 60 = 0 then lead else lead ++ ':' :: padded 2 (n % 60)

def DateTime.text (separator : Char) (t : DateTime) : List Char :=
  t.date.text ++ separator :: padded 2 t.hour ++ ':' :: padded 2 t.minute ++
    ':' :: padded 2 t.second ++
    (if t.micro = 0 then [] else '.' :: padded 6 t.micro) ++
    (t.offset.map offsetText).getD []

end ClientGen
