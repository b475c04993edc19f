/-! Bytes in the deflate packing: blocks of bytes that stand for themselves, or of symbols in a code
in which no symbol's bits begin another's. A symbol is a byte, or a length that goes with a distance
back to bytes that came before. Data that ends early stands for what can be told of it. -/
namespace ClientGen.Web

inductive PackingFlaw
  | blockType
  | plainSize
  | tooManySymbols
  | sizesCode
  | repetition
  | noEnd
  | symbolCode
  | distanceCode
  | symbol
  | distance
  | tooFar
  deriving DecidableEq, Repr, Inhabited

def PackingFlaw.message : PackingFlaw → String
  | .blockType => "invalid block type"
  | .plainSize => "invalid stored block lengths"
  | .tooManySymbols => "too many length or distance symbols"
  | .sizesCode => "invalid code lengths set"
  | .repetition => "invalid bit length repeat"
  | .noEnd => "invalid code -- missing end-of-block"
  | .symbolCode => "invalid literal/lengths set"
  | .distanceCode => "invalid distances set"
  | .symbol => "invalid literal/length code"
  | .distance => "invalid distance code"
  | .tooFar => "invalid distance too far back"

inductive Halt
  | cutOff
  | flaw (flaw : PackingFlaw)
  deriving DecidableEq, Repr, Inhabited

abbrev Bits := List Bool

abbrev Taking := StateT Bits (Except Halt)

def bitsOf (bytes : List UInt8) : Bits :=
  bytes.flatMap fun b => (List.range 8).map b.toNat.testBit

def takeNumber (width : Nat) : Taking Nat := fun bits =>
  let taken := bits.take width
  if taken.length < width then .error .cutOff
  else .ok (taken.foldr (fun b n => n * 2 + b.toNat) 0, bits.drop width)

def toByteEnd : Taking Unit := modify fun bits => bits.drop (bits.length % 8)

abbrev Code := List (Bits × Nat)

def maxSize : Nat := 15

def highBits : Nat → Nat → Bits
  | 0, _ => []
  | width + 1, n => n.testBit width :: highBits width n

/-- Rows of bits for symbols in the order of their sizes: each row starts where the one before it
ends in the space of all rows. -/
def assigned : Nat → List (Nat × Nat) → Code
  | _, [] => []
  | start, (size, symbol) :: rest =>
    let span := Nat.pow 2 (maxSize - size)
    (highBits size (start / span), symbol) :: assigned (start + span) rest

def codeOf (sizes : List Nat) : Code :=
  let used := sizes.zipIdx.filter fun e => e.1 ≠ 0
  assigned 0 (used.mergeSort fun a b => a.1 ≤ b.1)

def isWhole (lone : Bool) (sizes : List Nat) : Bool :=
  let used := sizes.filter (· ≠ 0)
  let space := used.foldl (fun n size => n + Nat.pow 2 (maxSize - size)) 0
  space == Nat.pow 2 maxSize || used.isEmpty || (lone && used == [1])

def takeSymbol (code : Code) (flaw : PackingFlaw) : Taking Nat := fun bits =>
  match code.find? fun e => e.1.isPrefixOf bits with
  | some (row, symbol) => .ok (symbol, bits.drop row.length)
  | none =>
    if bits.isEmpty || code.any (fun e => bits.isPrefixOf e.1) then .error .cutOff
    else .error (.flaw flaw)

def sizesOrder : List Nat := [16, 17, 18, 0, 8, 7, 9, 6, 10, 5, 11, 4, 12, 3, 13, 2, 14, 1, 15]

/-- A size, or how often one is repeated, where `last` is the size before it. Without any code each
bit tells a size of zero. -/
def takeSizes (code : Code) (last : Option Nat) : Taking (List Nat) := do
  let symbol ← if code.isEmpty then (fun _ => 0) <$> takeNumber 1 else takeSymbol code .sizesCode
  match symbol with
  | 16 =>
    let n ← takeNumber 2
    match last with
    | some size => return List.replicate (n + 3) size
    | none => throw (.flaw .repetition)
  | 17 => return List.replicate ((← takeNumber 3) + 3) 0
  | 18 => return List.replicate ((← takeNumber 7) + 11) 0
  | size => return [size]

def takeAllSizes (code : Code) (count : Nat) : Nat → List Nat → Taking (List Nat)
  | 0, done => return done
  | fuel + 1, done => do
    if done.length = count then return done
    let more ← takeSizes code done.getLast?
    if count < done.length + more.length then throw (.flaw .repetition)
    takeAllSizes code count fuel (done ++ more)

def endSymbol : Nat := 256

def takeCodes : Taking (Code × Code) := do
  let symbols := (← takeNumber 5) + 257
  let distances := (← takeNumber 5) + 1
  let count := (← takeNumber 4) + 4
  if 286 < symbols ∨ 30 < distances then throw (.flaw .tooManySymbols)
  let small ← (List.range count).mapM fun _ => takeNumber 3
  let sizesSizes := (List.range 19).map fun n => ((sizesOrder.zip small).lookup n).getD 0
  if !isWhole false sizesSizes then throw (.flaw .sizesCode)
  let total := symbols + distances
  let sizes ← takeAllSizes (codeOf sizesSizes) total total []
  if sizes.getD endSymbol 0 = 0 then throw (.flaw .noEnd)
  if !isWhole true (sizes.take symbols) then throw (.flaw .symbolCode)
  if !isWhole true (sizes.drop symbols) then throw (.flaw .distanceCode)
  return (codeOf (sizes.take symbols), codeOf (sizes.drop symbols))

def usualCodes : Code × Code :=
  let sizes := List.replicate 144 8 ++ List.replicate 112 9 ++ List.replicate 24 7 ++
    List.replicate 8 8
  ((codeOf sizes).filter (·.2 < 286), (codeOf (List.replicate 32 5)).filter (·.2 < 30))

def lengthSteps : List (Nat × Nat) := [
  (3, 0), (4, 0), (5, 0), (6, 0), (7, 0), (8, 0), (9, 0), (10, 0), (11, 1), (13, 1), (15, 1),
  (17, 1), (19, 2), (23, 2), (27, 2), (31, 2), (35, 3), (43, 3), (51, 3), (59, 3), (67, 4), (83, 4),
  (99, 4), (115, 4), (131, 5), (163, 5), (195, 5), (227, 5), (258, 0)]

def distanceStep (symbol : Nat) : Nat × Nat :=
  if symbol < 4 then (symbol + 1, 0)
  else
    let width := symbol / 2 - 1
    ((2 + symbol % 2) * Nat.pow 2 width + 1, width)

def copied (distance : Nat) : Nat → List UInt8 → List UInt8
  | 0, done => done
  | length + 1, done => copied distance length ((done[distance - 1]?).getD 0 :: done)

def takeMatch (distances : Code) (symbol : Nat) : Taking (Nat × Nat) := do
  let some (length, width) := lengthSteps[symbol - endSymbol - 1]? | throw (.flaw .symbol)
  let length := length + (← takeNumber width)
  let (distance, width) := distanceStep (← takeSymbol distances .distance)
  return (length, distance + (← takeNumber width))

abbrev Told := List UInt8 × Except Halt Bits

def Told.behind {α : Type} (done : List UInt8) (taken : Except Halt (α × Bits))
    (next : α → Bits → Told) : Told :=
  match taken with
  | .error halt => (done, .error halt)
  | .ok (a, bits) => next a bits

def toldBySymbols (codes : Code × Code) : Nat → List UInt8 → Bits → Told
  | 0, done, _ => (done, .error .cutOff)
  | fuel + 1, done, bits =>
    Told.behind done (takeSymbol codes.1 .symbol bits) fun symbol bits =>
      if symbol < endSymbol then toldBySymbols codes fuel (UInt8.ofNat symbol :: done) bits
      else if symbol = endSymbol then (done, .ok bits)
      else Told.behind done (takeMatch codes.2 symbol bits) fun (length, distance) bits =>
        if done.length < distance then (done, .error (.flaw .tooFar))
        else toldBySymbols codes fuel (copied distance length done) bits

def toldPlainly : Nat → List UInt8 → Bits → Told
  | 0, done, bits => (done, .ok bits)
  | count + 1, done, bits =>
    Told.behind done (takeNumber 8 bits) fun n bits =>
      toldPlainly count (UInt8.ofNat n :: done) bits

def takePlainSize : Taking Nat := do
  toByteEnd
  let both ← takeNumber 32
  let size := both % 65536
  if size + both / 65536 = 65535 then return size else throw (.flaw .plainSize)

def toldByBlock (kind : Nat) (done : List UInt8) (bits : Bits) : Told :=
  match kind with
  | 0 => Told.behind done (takePlainSize bits) fun size bits => toldPlainly size done bits
  | 1 => toldBySymbols usualCodes (bits.length + 1) done bits
  | 2 =>
    Told.behind done (takeCodes bits) fun codes bits =>
      toldBySymbols codes (bits.length + 1) done bits
  | _ => (done, .error (.flaw .blockType))

def toldByBlocks : Nat → List UInt8 → Bits → Told
  | 0, done, _ => (done, .error .cutOff)
  | fuel + 1, done, bits =>
    Told.behind done (takeNumber 3 bits) fun head bits =>
      match toldByBlock (head / 2) done bits with
      | (done, .ok bits) =>
        if head % 2 = 1 then (done, .ok bits) else toldByBlocks fuel done bits
      | halted => halted

def told (bits : Bits) : Told := toldByBlocks (bits.length + 1) [] bits

def unpackedBytes (bytes : List UInt8) : Except PackingFlaw (List UInt8) :=
  match told (bitsOf bytes) with
  | (_, .error (.flaw flaw)) => .error flaw
  | (done, _) => .ok done.reverse

def checksum (bytes : List UInt8) : Nat :=
  let sums := bytes.foldl
    (fun (sums : Nat × Nat) b =>
      let first := (sums.1 + b.toNat) % 65521
      (first, (sums.2 + first) % 65521)) (1, 0)
  sums.2 * 65536 + sums.1

def isHead (a b : UInt8) : Bool :=
  (a.toNat * 256 + b.toNat) % 31 == 0 && a.toNat % 16 == 8 && a.toNat / 16 ≤ 7 &&
    !b.toNat.testBit 5

def takeSum : Taking Nat := do
  toByteEnd
  let bytes ← (List.range 4).mapM fun _ => takeNumber 8
  return bytes.foldl (fun n b => n * 256 + b) 0

def unpackedBehindHead? (bytes : List UInt8) : Option (List UInt8) :=
  match bytes with
  | a :: b :: rest =>
    if !isHead a b then none
    else match told (bitsOf rest) with
      | (_, .error (.flaw _)) => none
      | (done, .error .cutOff) => some done.reverse
      | (done, .ok bits) =>
        match takeSum bits with
        | .ok (sum, _) => if sum = checksum done.reverse then some done.reverse else none
        | .error _ => some done.reverse
  | _ => some []

def unpacked (bytes : List UInt8) : Except PackingFlaw (List UInt8) :=
  match unpackedBehindHead? bytes with
  | some found => .ok found
  | none => unpackedBytes bytes

end ClientGen.Web
