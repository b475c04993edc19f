import ClientGen.Text.Bytes
import ClientGen.Text.CharacterName

/-! The inside of a quoted text with its escapes resolved. A backslash stands before a quote, before
the letter of a control character, before an octal or hexadecimal number, or before the name of a
character; before any other character it stands for itself. -/
namespace ClientGen.Text

def shortEscape? (c : Char) : Option Char :=
  match c with
  | 'a' => some '\x07'
  | 'b' => some '\x08'
  | 't' => some '\t'
  | 'n' => some '\n'
  | 'v' => some '\x0b'
  | 'f' => some '\x0c'
  | 'r' => some '\r'
  | '\\' | '\'' | '"' => some c
  | _ => none

def hexWidth? (c : Char) : Option Nat :=
  match c with
  | 'x' => some 2
  | 'u' => some 4
  | 'U' => some 8
  | _ => none

def isOctal (c : Char) : Bool := decide ('0' ≤ c ∧ c ≤ '7')

def hexChar? (width : Nat) (s : List Char) : Option (Char × List Char) := do
  let digits ← (s.take width).mapM hexValue?
  let n := digits.foldl (fun n d => n * 16 + d) 0
  if digits.length = width ∧ n.isValidChar then some (Char.ofNat n, s.drop width) else none

def bracedChar? (s : List Char) : Option (Char × List Char) :=
  match s with
  | '\x7b' :: s =>
    match s.dropWhile (· ≠ '\x7d') with
    | _ :: rest => (characterNamed? (s.takeWhile (· ≠ '\x7d'))).map (·, rest)
    | [] => none
  | _ => none

def escape? (c : Char) (rest : List Char) : Option (List Char × List Char) :=
  match shortEscape? c, hexWidth? c with
  | some e, _ => some ([e], rest)
  | none, some width => (hexChar? width rest).map fun found => ([found.1], found.2)
  | none, none =>
    if c = '\n' then some ([], rest)
    else if c = 'N' then (bracedChar? rest).map fun found => ([found.1], found.2)
    else if isOctal c then
      let digits := c :: (rest.take 2).takeWhile isOctal
      let n := digits.foldl (fun n d => n * 8 + (d.toNat - 48)) 0
      some ([Char.ofNat n], rest.drop (digits.length - 1))
    else some (['\\', c], rest)

def resolvedFrom : Nat → List Char → Option (List Char)
  | _, [] => some []
  | 0, _ => none
  | _ + 1, ['\\'] => none
  | fuel + 1, '\\' :: c :: rest => do
    let (found, rest) ← escape? c rest
    return found ++ (← resolvedFrom fuel rest)
  | fuel + 1, c :: rest => do return c :: (← resolvedFrom fuel rest)

def resolved? (s : List Char) : Option (List Char) :=
  let spelled := s.flatMap fun c => if c.toNat < 128 then [c] else escapeHidden c
  resolvedFrom spelled.length spelled

end ClientGen.Text
