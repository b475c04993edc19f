import ClientGen.Text.Split

/-! Names in any script written with ASCII letters, digits and hyphens. The ASCII characters of a
name come first; behind a hyphen follow numbers that tell one after another where each other
character is put in, the smallest character first. A number is written in digits whose range
changes with its place and with the size of the numbers before it. -/
namespace ClientGen.Text.Punycode

def threshold (bias place : Nat) : Nat := max 1 (min 26 (36 * place - bias))

theorem thresholdBounds (bias place : Nat) :
    1 ≤ threshold bias place ∧ threshold bias place ≤ 26 := by
  unfold threshold
  omega

def settle (distance count : Nat) : Nat × Nat :=
  if 455 < distance then settle (distance / 35) (count + 1) else (distance, count)
termination_by distance
decreasing_by omega

def adapted (delta size : Nat) (isFirst : Bool) : Nat :=
  let damped := if isFirst then delta / 700 else delta / 2
  let (distance, count) := settle (damped + damped / size) 0
  36 * count + 36 * distance / (distance + 38)

def digit (value : Nat) : Char :=
  if value < 26 then Char.ofNat (97 + value) else Char.ofNat (22 + value)

def digitValue? (c : Char) : Option Nat :=
  if 'a' ≤ c ∧ c ≤ 'z' then some (c.toNat - 97)
  else if 'A' ≤ c ∧ c ≤ 'Z' then some (c.toNat - 65)
  else if '0' ≤ c ∧ c ≤ '9' then some (c.toNat - 22)
  else none

def digits (bias place n : Nat) : List Char :=
  let t := threshold bias place
  if n < t then [digit n]
  else digit (t + (n - t) % (36 - t)) :: digits bias (place + 1) ((n - t) / (36 - t))
termination_by n
decreasing_by
  have := thresholdBounds bias place
  have small := Nat.div_le_self (n - threshold bias place) (36 - threshold bias place)
  omega

def number? (bias place weight : Nat) : List Char → Option (Nat × List Char)
  | [] => none
  | c :: rest =>
    match digitValue? c with
    | none => none
    | some value =>
      let t := threshold bias place
      if value < t then some (value * weight, rest)
      else match number? bias (place + 1) (weight * (36 - t)) rest with
        | none => none
        | some (more, rest) => some (value * weight + more, rest)

theorem numberShortens {s rest : List Char} {bias place weight n : Nat}
    (read : number? bias place weight s = some (n, rest)) : rest.length < s.length := by
  induction s generalizing place weight n with
  | nil => simp [number?] at read
  | cons c more ih =>
    simp only [number?] at read
    split at read
    · contradiction
    · split at read
      · simp_all
      · split at read
        · contradiction
        · next found =>
          simp only [Option.some.injEq, Prod.mk.injEq] at read
          have := ih (read.2 ▸ found)
          simp only [List.length_cons]
          omega

structure Writing where
  done : List Char
  delta : Nat
  bias : Nat
  size : Nat

def Writing.pass (basic next : Nat) (w : Writing) (c : Char) : Writing :=
  if c.toNat < next then { w with delta := w.delta + 1 }
  else if c.toNat = next then
    ⟨w.done ++ digits w.bias 1 w.delta, 0, adapted w.delta (w.size + 1) (w.size == basic),
      w.size + 1⟩
  else w

def Writing.run (name : List Char) (basic : Nat) : Nat → List Nat → Writing → Writing
  | _, [], w => w
  | least, next :: rest, w =>
    let w := { w with delta := w.delta + (next - least) * (w.size + 1) }
    let w := name.foldl (Writing.pass basic next) w
    run name basic (next + 1) rest { w with delta := w.delta + 1 }

def encode (name : List Char) : List Char :=
  let basic := name.filter (·.toNat < 128)
  let others := ((name.filter (128 ≤ ·.toNat)).map (·.toNat)).mergeSort.eraseDups
  let w := Writing.run name basic.length 128 others ⟨[], 0, 72, basic.length⟩
  (if basic.isEmpty then [] else basic ++ ['-']) ++ w.done

def insertFrom (isFirst : Bool) (bias char position : Nat) (done s : List Char) :
    Option (List Char) :=
  match s with
  | [] => some done
  | c :: rest =>
    match read : number? bias 1 1 (c :: rest) with
    | none => none
    | some (delta, more) =>
      let size := done.length + 1
      let char := char + (position + delta) / size
      let position := (position + delta) % size
      if 0x10ffff < char then none
      else
        let done := done.take position ++ Char.ofNat char :: done.drop position
        insertFrom false (adapted delta size isFirst) char (position + 1) done more
termination_by s.length
decreasing_by exact numberShortens read

def decode? (s : List Char) : Option (List Char) :=
  let tail := (s.reverse.takeWhile (· ≠ '-')).reverse
  let basic := (s.take (s.length - tail.length)).dropLast
  insertFrom true 72 128 0 basic tail

end ClientGen.Text.Punycode
