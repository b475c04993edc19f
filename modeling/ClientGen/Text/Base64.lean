import ClientGen.Text.Bytes

/-! Bytes written six bits a character. Characters outside the alphabet count for nothing, and an
equals sign pads a group that has begun; a group that stays incomplete without padding is
refused. -/
namespace ClientGen.Text

inductive SextetFlaw
  | leftOver (characters : Nat)
  | unpadded
  deriving DecidableEq, Repr, Inhabited

def SextetFlaw.message : SextetFlaw → String
  | .leftOver n => "Invalid base64-encoded string: number of data characters (" ++ toString n ++
      ") cannot be 1 more than a multiple of 4"
  | .unpadded => "Incorrect padding"

def sextet? (c : Char) : Option Nat :=
  if 'A' ≤ c ∧ c ≤ 'Z' then some (c.toNat - 65)
  else if 'a' ≤ c ∧ c ≤ 'z' then some (c.toNat - 71)
  else if '0' ≤ c ∧ c ≤ '9' then some (c.toNat + 4)
  else if c = '+' then some 62
  else if c = '/' then some 63
  else none

/-- `held` are the bits carried over, `count` the characters of the current group, `pads` the signs
that have padded it, and `done` the bytes so far in reverse. -/
def sextetBytesFrom (held count pads : Nat) (done : List UInt8) :
    List Char → Except SextetFlaw (List UInt8)
  | [] =>
    match count with
    | 0 => .ok done.reverse
    | 1 => .error (.leftOver (done.length / 3 * 4 + 1))
    | _ => .error .unpadded
  | c :: rest =>
    if c = '=' then
      if 2 ≤ count then
        if 4 ≤ count + pads + 1 then .ok done.reverse
        else sextetBytesFrom held count (pads + 1) done rest
      else sextetBytesFrom held count pads done rest
    else match sextet? c with
      | none => sextetBytesFrom held count pads done rest
      | some n =>
        match count with
        | 0 => sextetBytesFrom n 1 0 done rest
        | 1 => sextetBytesFrom (n % 16) 2 0 ((held * 4 + n / 16).toUInt8 :: done) rest
        | 2 => sextetBytesFrom (n % 4) 3 0 ((held * 16 + n / 4).toUInt8 :: done) rest
        | _ => sextetBytesFrom 0 0 0 ((held * 64 + n).toUInt8 :: done) rest

def sextetBytes (s : List Char) : Except SextetFlaw (List UInt8) := sextetBytesFrom 0 0 0 [] s

end ClientGen.Text
