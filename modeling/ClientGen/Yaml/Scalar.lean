import ClientGen.Yaml.Cursor
import ClientGen.Text.LetterCase
import ClientGen.Text.Integer
import ClientGen.Text.Spelling
import ClientGen.Node.Display

/-! Tags of YAML scalars. A plain scalar is a truth value, a number, a moment, nothing or a merge
mark when it is spelled like one, and a text otherwise; its tag then says how it is read. -/
namespace ClientGen.Yaml

def standardTag (name : String) : String := "tag:yaml.org,2002:" ++ name

open Text (Spelling)
open Text.Spelling

def isDigit : Char → Bool := Text.isAsciiDigit

def digitOr (extra : Char) (c : Char) : Bool := isDigit c || c == extra

def booleanWords : List String := [
  "yes", "Yes", "YES", "no", "No", "NO", "true", "True", "TRUE", "false", "False", "FALSE",
  "on", "On", "ON", "off", "Off", "OFF"]

def sixties : Nat → Spelling
  | 0 => fun s => [s]
  | fuel + 1 => fun s =>
    let group := all [word ":", optional (char fun c => decide ('0' ≤ c ∧ c ≤ '5')), char isDigit]
    (seq group (optional (sixties fuel))) s

def exponentSpelling : Spelling :=
  optional (all [char fun c => c == 'e' || c == 'E', char fun c => c == '-' || c == '+',
    atLeastOne isDigit])

def floatSpelling (s : List Char) : Bool :=
  let under := many (digitOr '_')
  accepts (all [sign, char isDigit, under, word ".", under, exponentSpelling]) s ||
  accepts (all [word ".", char isDigit, under, exponentSpelling]) s ||
  accepts (all [sign, char isDigit, under, sixties s.length, word ".", under]) s ||
  accepts (all [sign, word ".", oneOf ["inf", "Inf", "INF"]]) s ||
  accepts (all [word ".", oneOf ["nan", "NaN", "NAN"]]) s

def isHexDigit (c : Char) : Bool :=
  isDigit c || decide ('a' ≤ c ∧ c ≤ 'f') || decide ('A' ≤ c ∧ c ≤ 'F')

def positiveLead (c : Char) : Bool := decide ('1' ≤ c ∧ c ≤ '9')

def intSpelling (s : List Char) : Bool :=
  accepts (all [sign, word "0b", atLeastOne fun c => c == '0' || c == '1' || c == '_']) s ||
  accepts (all [sign, word "0", atLeastOne fun c => decide ('0' ≤ c ∧ c ≤ '7') || c == '_']) s ||
  accepts (all [sign, word "0"]) s ||
  accepts (all [sign, char positiveLead, many (digitOr '_')]) s ||
  accepts (all [sign, word "0x", atLeastOne fun c => isHexDigit c || c == '_']) s ||
  accepts (all [sign, char positiveLead, many (digitOr '_'), sixties s.length]) s

def isBlank (c : Char) : Bool := c == ' ' || c == '\t'

def twoDigits : Spelling := seq (char isDigit) (char isDigit)

def oneOrTwoDigits : Spelling := seq (char isDigit) (optional (char isDigit))

def yearSpelling : Spelling := seq twoDigits twoDigits

def zoneSpelling : Spelling :=
  optional (seq (many isBlank) (alt (word "Z") (all [char fun c => c == '-' || c == '+',
    oneOrTwoDigits, optional (seq (word ":") twoDigits)])))

def timestampSpelling (s : List Char) : Bool :=
  accepts (all [yearSpelling, word "-", twoDigits, word "-", twoDigits]) s ||
  accepts (all [yearSpelling, word "-", oneOrTwoDigits, word "-", oneOrTwoDigits,
    alt (char fun c => c == 'T' || c == 't') (atLeastOne isBlank),
    oneOrTwoDigits, word ":", twoDigits,
    word ":", twoDigits, optional (seq (word ".") (many isDigit)), zoneSpelling]) s

def spelledTag (text : String) : String :=
  let s := text.toList
  if accepts (oneOf booleanWords) s then standardTag "bool"
  else if floatSpelling s then standardTag "float"
  else if intSpelling s then standardTag "int"
  else if accepts (word "<<") s then standardTag "merge"
  else if s.isEmpty || accepts (oneOf ["~", "null", "Null", "NULL"]) s then standardTag "null"
  else if timestampSpelling s then standardTag "timestamp"
  else if accepts (word "=") s then standardTag "value"
  else if accepts (oneOf ["!", "&", "*"]) s then standardTag "yaml"
  else standardTag "str"

def quoted (s : List Char) : String := String.ofList (Text.display s)

def noInteger (base : Nat) (s : List Char) : Failure :=
  .valueless ("invalid literal for int() with base " ++ toString base ++ ": " ++ quoted s)

def readInteger (base : Nat) (s : List Char) : Result Int :=
  match Text.integer? base s with
  | some n =>
    let digits := s.countP (fun c => (Text.decimalValue? c).isSome)
    if base = 10 ∧ digitLimit < digits then .error (.valueless (tooManyDigits digits))
    else .ok n
  | none => .error (noInteger base s)

def takeSign (s : List Char) : Result (Bool × List Char) :=
  match s with
  | [] => .error (.fault .outOfRange)
  | '-' :: rest => .ok (true, rest)
  | '+' :: rest => .ok (false, rest)
  | _ => .ok (false, s)

def withoutUnderscores (s : List Char) : List Char := s.filter (· ≠ '_')

def readInt (text : List Char) : Result Int := do
  let (negative, s) ← takeSign (withoutUnderscores text)
  let signed := fun n : Int => if negative then -n else n
  match s with
  | [] => .error (.fault .outOfRange)
  | ['0'] => return 0
  | '0' :: 'b' :: rest => return signed (← readInteger 2 rest)
  | '0' :: 'x' :: rest => return signed (← readInteger 16 rest)
  | '0' :: _ => return signed (← readInteger 8 s)
  | _ =>
    if s.contains ':' then do
      let groups ← (Text.splitAt ':' s).mapM (readInteger 10)
      return signed (groups.foldl (fun n g => n * 60 + g) 0)
    else return signed (← readInteger 10 s)

def decimal? (s : List Char) : Option Float :=
  let s := Text.trim s
  let (negative, s) := match s with
    | '-' :: r => (true, r)
    | '+' :: r => (false, r)
    | r => (false, r)
  let signed := fun x : Float => if negative then -x else x
  let lowered := String.ofList (Text.lower s)
  if lowered = "inf" ∨ lowered = "infinity" then some (signed (1.0 / 0.0))
  else if lowered = "nan" then some (0.0 / 0.0)
  else
    let isDecimal := fun c => (Text.decimalValue? c).isSome
    let whole := s.takeWhile isDecimal
    let s := s.drop whole.length
    let (fraction, s) := match s with
      | '.' :: r => (r.takeWhile isDecimal, r.dropWhile isDecimal)
      | r => ([], r)
    if whole.isEmpty && fraction.isEmpty then none
    else do
      let number := fun ds : List Char =>
        ds.foldl (fun n c => n * 10 + (Text.decimalValue? c).getD 0) 0
      let shift : Int ← match s with
        | [] => some 0
        | e :: r =>
          if e = 'e' ∨ e = 'E' then
            let (down, ds) := match r with
              | '-' :: r => (true, r)
              | '+' :: r => (false, r)
              | r => (false, r)
            if ds.isEmpty || !ds.all isDecimal then none
            else some (if down then -(number ds : Int) else number ds)
          else none
      return signed (Decimal.nearest (number (whole ++ fraction)) (shift - (fraction.length : Int)))

def readDecimal (s : List Char) : Result Float :=
  match decimal? s with
  | some x => .ok x
  | none => .error (.valueless ("could not convert string to float: " ++ quoted s))

def sumOfSixties (power : Nat) (sum : Float) : List Float → Result Float
  | [] => .ok sum
  | group :: rest =>
    let weight := Decimal.nearest (60 ^ power) 0
    if weight.isInf then .error (.fault .tooLarge)
    else sumOfSixties (power + 1) (sum + group * weight) rest

def readFloat (text : List Char) : Result Float := do
  let (negative, s) ← takeSign (Text.lower (withoutUnderscores text))
  let signed := fun x : Float => if negative then -x else x
  if s = ".inf".toList then return signed (1.0 / 0.0)
  else if s = ".nan".toList then return 0.0 / 0.0
  else if s.contains ':' then do
    let groups ← (Text.splitAt ':' s).mapM readDecimal
    return signed (← sumOfSixties 0 0.0 groups.reverse)
  else return signed (← readDecimal s)

def readBool (text : List Char) : Result Bool :=
  let w := String.ofList (Text.lower text)
  if w = "yes" ∨ w = "true" ∨ w = "on" then .ok true
  else if w = "no" ∨ w = "false" ∨ w = "off" then .ok false
  else .error (.fault .missingKey)

def number (ds : List Char) : Nat := ds.foldl (fun n c => n * 10 + (c.toNat - 48)) 0

def takeTwo (s : List Char) : List Char × List Char :=
  let ds := (s.take 2).takeWhile isDigit
  (ds, s.drop ds.length)

def readDate (year month day : Nat) : Result Date :=
  if year = 0 then .error (.valueless "year 0 is out of range")
  else if month = 0 ∨ 12 < month then .error (.valueless "month must be in 1..12")
  else if day = 0 ∨ daysInMonth year month < day then
    .error (.valueless "day is out of range for month")
  else .ok ⟨year, month, day⟩

def readZone (s : List Char) : Result (Option Int) :=
  match s.dropWhile isBlank with
  | 'Z' :: _ => .ok (some 0)
  | sign :: rest =>
    if sign = '-' ∨ sign = '+' then
      let (hours, rest) := takeTwo rest
      let minutes := match rest with
        | ':' :: r => number (r.take 2)
        | _ => 0
      let seconds : Int := number hours * 3600 + minutes * 60
      let offset := if sign = '-' then -seconds else seconds
      if 86400 ≤ seconds then
        .error (.valueless ("offset must be a timedelta strictly between " ++
          "-timedelta(hours=24) and timedelta(hours=24), not " ++
          String.ofList (shownDuration offset) ++ "."))
      else .ok (some offset)
    else .ok none
  | [] => .ok none

def timestampMatches (s : List Char) : Bool :=
  accepts (all [yearSpelling, word "-", oneOrTwoDigits, word "-", oneOrTwoDigits,
    optional (all [alt (char fun c => c == 'T' || c == 't') (atLeastOne isBlank), oneOrTwoDigits,
      word ":", twoDigits, word ":", twoDigits, optional (seq (word ".") (many isDigit)),
      zoneSpelling])]) s

def readTimestamp (s : List Char) : Result Node := do
  if !timestampMatches s then .error (.fault .notAnObject)
  let year := number (s.take 4)
  let (month, s) := takeTwo (s.drop 5)
  let (day, s) := takeTwo (s.drop 1)
  match s with
  | [] | ['\n'] => return .date (← readDate year (number month) (number day))
  | _ =>
    let s := (s.drop 1).dropWhile isBlank
    let (hour, s) := takeTwo s
    let minute := number ((s.drop 1).take 2)
    let second := number ((s.drop 4).take 2)
    let s := s.drop 6
    let (fraction, s) := match s with
      | '.' :: r => (r.takeWhile isDigit, r.dropWhile isDigit)
      | r => ([], r)
    let digits := fraction.take 6
    let micro := number (digits ++ Decimal.zeros (6 - digits.length))
    let offset ← readZone s
    let date ← readDate year (number month) (number day)
    if 23 < number hour then .error (.valueless "hour must be in 0..23")
    if 59 < minute then .error (.valueless "minute must be in 0..59")
    if 59 < second then .error (.valueless "second must be in 0..59")
    return .datetime ⟨date, number hour, minute, second, micro, offset⟩

def readBinary (s : List Char) : Result (List UInt8) :=
  if s.all (·.toNat < 128) then
    match Text.sextetBytes s with
    | .ok bytes => .ok bytes
    | .error _ => reject
  else reject

def scalarValue (tag : String) (text : String) : Result Node :=
  let s := text.toList
  if tag = standardTag "str" then .ok (.str text)
  else if tag = standardTag "null" then .ok .null
  else if tag = standardTag "bool" then do return .bool (← readBool s)
  else if tag = standardTag "int" then do return .int (← readInt s)
  else if tag = standardTag "float" then do return .float (← readFloat s)
  else if tag = standardTag "timestamp" then readTimestamp s
  else if tag = standardTag "binary" then do return .bytes (← readBinary s)
  else reject

end ClientGen.Yaml
