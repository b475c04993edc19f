import ClientGen.Address.NameLetter
import ClientGen.Fault
import ClientGen.Text.LetterCase
import ClientGen.Text.Punycode

/-! Host names in any script. A name is a row of labels with dots between them; a label that goes
beyond ASCII is written behind `xn--` in ASCII. Every label is held to the rules on hyphens, on the
characters of names, on the neighbours of some of them and on the direction of writing. -/
namespace ClientGen.Address

abbrev Naming := Except NameFlaw

def isArabicDigit (c : Char) : Bool := decide (0x660 ≤ c.toNat ∧ c.toNat ≤ 0x669)

def isPersianDigit (c : Char) : Bool := decide (0x6f0 ≤ c.toNat ∧ c.toNat ≤ 0x6f9)

def keepsApart (before after : List Char) : Bool :=
  (before.head?.map isVirama).getD false ||
    (((before.dropWhile isMark).head?.map joinsBothWays).getD false &&
      ((after.dropWhile isMark).head?.map fun c => joinsBothWays c || joinsBefore c).getD false)

def isJoiner (c : Char) : Bool := c.toNat == 0x200c || c.toNat == 0x200d

def joinerFits (before after : List Char) (c : Char) : Bool :=
  if c.toNat = 0x200c then keepsApart before after else (before.head?.map isVirama).getD false

def fits? (label before after : List Char) (c : Char) : Option Bool :=
  match c.toNat with
  | 0xb7 => some (before.head? == some 'l' && after.head? == some 'l')
  | 0x375 => some ((after.head?.map isGreek).getD false)
  | 0x5f3 | 0x5f4 => some ((before.head?.map isHebrew).getD false)
  | 0x30fb => some (label.any isJapanese)
  | _ =>
    if isArabicDigit c then some (!label.any isPersianDigit)
    else if isPersianDigit c then some (!label.any isArabicDigit)
    else none

def checkLetters (label before : List Char) : List Char → Naming Unit
  | [] => .ok ()
  | c :: rest =>
    if isNameLetter c then checkLetters label (c :: before) rest
    else if isJoiner c then
      if joinerFits before rest c then checkLetters label (c :: before) rest
      else .error .malformed
    else match fits? label before rest c with
      | some true => checkLetters label (c :: before) rest
      | some false => .error .context
      | none => .error .letter

inductive Direction
  | rightward
  | leftward
  | number
  | easternNumber
  | neutral
  | mark
  deriving DecidableEq, Repr

def direction (c : Char) : Direction :=
  if runsLeft c then .leftward
  else if isArabicDigit c || Text.inRanges [(0x10d30, 0x10d39)] c.toNat then .easternNumber
  else if Text.isAsciiDigit c || isPersianDigit c then .number
  else if isMark c then .mark
  else if isUndirected c || [0xb7, 0x375, 0x30fb, 0x200c, 0x200d].contains c.toNat then .neutral
  else .rightward

def isOneWay (label : List Char) : Bool :=
  let ds := label.map direction
  if !ds.contains .leftward && !ds.contains .easternNumber then true
  else
    ds.head? == some .leftward && !ds.contains .rightward &&
      !(ds.contains .number && ds.contains .easternNumber) &&
      match ds.reverse.dropWhile (· == .mark) with
      | last :: _ => last == .leftward || last == .number || last == .easternNumber
      | [] => false

def isComposed : List Char → Bool
  | a :: b :: rest => !(composingBases b.toNat).toList.contains a && isComposed (b :: rest)
  | _ => true

def hasMisplacedHyphen (label : List Char) : Bool :=
  (label.drop 2).take 2 == ['-', '-'] || label.head? == some '-' || label.getLast? == some '-'

def checkLabel (label : List Char) : Naming Unit := do
  if label.isEmpty || 254 < label.length || !isComposed label || hasMisplacedHyphen label then
    throw .malformed
  if (label.head?.map isMark).getD false then throw .malformed
  checkLetters label [] label
  if !isOneWay label then throw .direction

def codeLead : List Char := ['x', 'n', '-', '-']

def labelLimit : Nat := 63

def spelledLabel (label : List Char) : Naming (List Char) := do
  if codeLead.isPrefixOf label then
    let code := label.drop codeLead.length
    if code.isEmpty || code.getLast? == some '-' then throw .malformed
    match Text.Punycode.decode? code with
    | none => throw .malformed
    | some s =>
      checkLabel s
      return s
  else
    checkLabel label
    return label

def codedLabel (label : List Char) : Naming (List Char) := do
  let coded ←
    if label.all (·.toNat < 128) then do
      let _ ← spelledLabel label
      pure label
    else do
      checkLabel label
      pure (codeLead ++ Text.Punycode.encode label)
  if labelLimit < coded.length then throw .malformed
  return coded

def isDot (c : Char) : Bool := [0x2e, 0x3002, 0xff0e, 0xff61].contains c.toNat

def labels (name : List Char) : List (List Char) × Bool :=
  let all := Text.splitAt '.' (name.map fun c => if isDot c then '.' else c)
  if all.getLast? = some [] then (all.dropLast, true) else (all, false)

def mapLabels (f : List Char → Naming (List Char)) (name : List Char) : Naming (List Char) := do
  if name.isEmpty then throw .malformed
  let (all, ended) := labels name
  return Text.joinWith ['.'] ((← all.mapM f) ++ (if ended then [[]] else []))

def spelledName (name : List Char) : Naming (List Char) := mapLabels spelledLabel name

def nameLimit : Nat := 253

def codedName (name : List Char) : Naming (List Char) := do
  let coded ← mapLabels codedLabel name
  let length := if (labels name).2 then coded.length - 1 else coded.length
  if nameLimit < length then throw .malformed
  return coded

end ClientGen.Address
