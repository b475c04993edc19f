import ClientGen.Text.Bytes
import ClientGen.Text.Split

/-! Numeric hosts: four decimal numbers with points between them, or eight hexadecimal groups with
colons between them, of which one run of zeros may be left out. -/
namespace ClientGen.Address

def octet? (s : List Char) : Option Nat :=
  if s.isEmpty || 3 < s.length || !s.all (fun c => decide ('0' ≤ c ∧ c ≤ '9')) then none
  else if s.head? = some '0' && s ≠ ['0'] then none
  else
    let n := s.foldl (fun n d => n * 10 + (d.toNat - 48)) 0
    if n ≤ 255 then some n else none

def isPointed (s : List Char) : Bool :=
  let octets := Text.splitAt '.' s
  octets.length == 4 && octets.all fun o => (octet? o).isSome

def isGroup (s : List Char) : Bool :=
  !s.isEmpty && decide (s.length ≤ 4) && s.all fun c => (Text.hexValue? c).isSome

def groupsOf? (s : List Char) : Option (List (List Char)) :=
  let parts := Text.splitAt ':' s
  if parts.length < 3 then none
  else
    let last := parts.getLast?.getD []
    if last.contains '.' then
      if isPointed last then some (parts.dropLast ++ [['0'], ['0']]) else none
    else some parts

def fitsAround (before after : List (List Char)) : Bool :=
  let front := if before = [[]] then [] else before
  let back := if after = [[]] then [] else after
  front.all isGroup && back.all isGroup && decide (front.length + back.length < 8)

def areGroups (parts : List (List Char)) : Bool :=
  if 9 < parts.length then false
  else
    let inner := (parts.drop 1).dropLast
    match inner.countP (·.isEmpty) with
    | 0 => parts.length == 8 && parts.all isGroup
    | 1 =>
      let front := 1 + (inner.takeWhile (!·.isEmpty)).length
      fitsAround (parts.take front) (parts.drop (front + 1))
    | _ => false

def isGrouped (s : List Char) : Bool :=
  let address := s.takeWhile (· ≠ '%')
  let zone := (s.drop address.length).tail?
  let isZone := match zone with
    | none => true
    | some z => !z.isEmpty && !z.contains '%'
  isZone && !s.contains '/' &&
    match groupsOf? address with
    | some parts => areGroups parts
    | none => false

end ClientGen.Address
