import ClientGen.Yaml.Cursor

/-! The words of a YAML text: plain, quoted and block scalars with their folding of lines, names of
anchors, tags and directives. Each reader starts at the first character of its word and leaves the
cursor behind the last. -/
namespace ClientGen.Yaml

def isNameChar (c : Char) : Bool := Text.isAsciiAlnum c || c == '-' || c == '_'

def foldedGap (first : Char) (more : List Char) : List Char :=
  if first ≠ '\n' then first :: more
  else if more.isEmpty then [' ']
  else more

def plainBreaks : Nat → Cursor → List Char → Bool × List Char × Cursor
  | 0, c, done => (false, done.reverse, c)
  | fuel + 1, c, done =>
    match c.head with
    | some ' ' => plainBreaks fuel c.step done
    | _ =>
      match c.lineBreak? with
      | none => (false, done.reverse, c)
      | some (b, c) => if c.atDocumentEdge then (true, [], c) else plainBreaks fuel c (b :: done)

structure Gap where
  text : List Char
  breaks : Bool
  cursor : Cursor

def plainGap (c : Cursor) : Gap :=
  let (spaces, c) := c.span (· == ' ')
  match c.lineBreak? with
  | none => ⟨spaces, false, c⟩
  | some (first, c) =>
    if c.atDocumentEdge then ⟨[], true, c⟩
    else
      let (edge, more, c) := plainBreaks (c.rest.length + 1) c []
      ⟨if edge then [] else foldedGap first more, true, c⟩

def endsPlain (inFlow : Bool) (x : Char) (next : Option Char) : Bool :=
  endsWord (some x) ||
    (x == ':' && (endsWord next ||
      (inFlow && match next with
        | some n => n == ',' || n == '[' || n == ']' || n == '\x7b' || n == '\x7d'
        | none => false))) ||
    (inFlow && (x == ',' || x == '?' || x == '[' || x == ']' || x == '\x7b' || x == '\x7d'))

def plainPiece (inFlow : Bool) : List Char → List Char
  | [] => []
  | x :: rest => if endsPlain inFlow x rest.head? then [] else x :: plainPiece inFlow rest

def plainFrom (inFlow : Bool) (indent : Int) :
    Nat → Cursor → List Char → List Char → Bool → List Char × Bool × Cursor
  | 0, c, done, _, breaks => (done, breaks, c)
  | fuel + 1, c, done, gap, breaks =>
    if c.head = some '#' then (done, breaks, c)
    else
      let piece := plainPiece inFlow c.rest
      if piece.isEmpty then (done, breaks, c)
      else
        let done := done ++ gap ++ piece
        let next := plainGap (c.forward piece.length)
        if next.text.isEmpty || next.cursor.head = some '#' ||
            (!inFlow && decide ((next.cursor.column : Int) < indent)) then
          (done, next.breaks, next.cursor)
        else plainFrom inFlow indent fuel next.cursor done next.text next.breaks

def plainScalar (inFlow : Bool) (indent : Int) (c : Cursor) : List Char × Bool × Cursor :=
  plainFrom inFlow indent (c.rest.length + 1) c [] [] false

def replacement? (c : Char) : Option Char :=
  match c with
  | '0' => some '\x00'
  | 'a' => some '\x07'
  | 'b' => some '\x08'
  | 't' | '\t' => some '\t'
  | 'n' => some '\n'
  | 'v' => some '\x0b'
  | 'f' => some '\x0c'
  | 'r' => some '\r'
  | 'e' => some '\x1b'
  | ' ' => some ' '
  | '"' => some '"'
  | '\\' => some '\\'
  | '/' => some '/'
  | 'N' => some '\x85'
  | '_' => some '\xa0'
  | 'L' => some '\u2028'
  | 'P' => some '\u2029'
  | _ => none

def codeLength? (c : Char) : Option Nat :=
  match c with
  | 'x' => some 2
  | 'u' => some 4
  | 'U' => some 8
  | _ => none

def hexDigitValue? (c : Char) : Option Nat :=
  if '0' ≤ c ∧ c ≤ '9' then some (c.toNat - 48)
  else if 'a' ≤ c ∧ c ≤ 'f' then some (c.toNat - 87)
  else if 'A' ≤ c ∧ c ≤ 'F' then some (c.toNat - 55)
  else none

def hexNumber? (s : List Char) : Option Nat :=
  s.foldl (fun n c => do return (← n) * 16 + (← hexDigitValue? c)) (some 0)

def codeChar (n : Nat) : Result Char :=
  if 0x7fffffff < n then .error (.fault .tooLarge)
  else if 0x10ffff < n then .error (.valueless "chr() arg not in range(0x110000)")
  else .ok (if 0xd800 ≤ n ∧ n < 0xe000 then '\ufffd' else Char.ofNat n)

def quotedBreaks : Nat → Cursor → List Char → Result (List Char × Cursor)
  | 0, c, done => .ok (done.reverse, c)
  | fuel + 1, c, done =>
    if c.atDocumentEdge then reject
    else
      let c := c.skip (fun x => x == ' ' || x == '\t')
      match c.lineBreak? with
      | none => .ok (done.reverse, c)
      | some (b, c) => quotedBreaks fuel c (b :: done)

def quotedGap (c : Cursor) : Result (List Char × Cursor) := do
  let (blanks, c) := c.span (fun x => x == ' ' || x == '\t')
  if c.rest.isEmpty then reject
  match c.lineBreak? with
  | none => return (blanks, c)
  | some (first, c) =>
    let (more, c) ← quotedBreaks (c.rest.length + 1) c []
    return (foldedGap first more, c)

def quotedEscape (c : Cursor) : Result (List Char × Cursor) :=
  match c.head with
  | none => reject
  | some e =>
    match replacement? e, codeLength? e with
    | some x, _ => .ok ([x], c.step)
    | none, some n =>
      let digits := c.step.rest.take n
      if digits.length < n then reject
      else match hexNumber? digits with
        | none => reject
        | some code => do
          let x ← codeChar code
          return ([x], c.step.forward n)
    | none, none =>
      match c.lineBreak? with
      | none => reject
      | some (_, c) => quotedBreaks (c.rest.length + 1) c []

def quotedFrom (double : Bool) : Nat → Cursor → List Char → Result (List Char × Cursor)
  | 0, _, _ => reject
  | fuel + 1, c, done =>
    match c.head with
    | none => reject
    | some x =>
      if x == '\'' && !double && c.peek 1 == some '\'' then
        quotedFrom double fuel (c.forward 2) (done ++ ['\''])
      else if x == (if double then '"' else '\'') then .ok (done, c.step)
      else if double && x == '\\' then do
        let (text, c) ← quotedEscape c.step
        quotedFrom double fuel c (done ++ text)
      else if x == ' ' || x == '\t' || isBreak x then do
        let (text, c) ← quotedGap c
        quotedFrom double fuel c (done ++ text)
      else quotedFrom double fuel c.step (done ++ [x])

def quotedScalar (double : Bool) (c : Cursor) : Result (List Char × Cursor) :=
  quotedFrom double (c.rest.length + 1) c.step []

inductive Chomping
  | strip
  | clip
  | keep
  deriving DecidableEq, Repr

def chomping? : Option Char → Option Chomping
  | some '+' => some .keep
  | some '-' => some .strip
  | _ => none

def indicatorDigit? : Option Char → Option Nat
  | some c => if Text.isAsciiDigit c then some (c.toNat - 48) else none
  | none => none

def blockIndicators (c : Cursor) : Result (Chomping × Option Nat × Cursor) := do
  let (chomping, increment, c) := match chomping? c.head with
    | some k =>
      match indicatorDigit? c.step.head with
      | some n => (k, some n, c.forward 2)
      | none => (k, none, c.step)
    | none =>
      match indicatorDigit? c.head with
      | some n =>
        match chomping? c.step.head with
        | some k => (k, some n, c.forward 2)
        | none => (.clip, some n, c.step)
      | none => (.clip, none, c)
  if increment = some 0 then reject
  if endsEntry c.head then return (chomping, increment, c) else reject

def ignoredLine (c : Cursor) : Result Cursor :=
  let c := c.skipSpaces
  let c := if c.head = some '#' then c.skipLine else c
  if endsLine c.head then
    match c.lineBreak? with
    | some (_, c) => .ok c
    | none => .ok c
  else reject

def blockIndentation : Nat → Cursor → List Char → Nat → List Char × Nat × Cursor
  | 0, c, done, deepest => (done.reverse, deepest, c)
  | fuel + 1, c, done, deepest =>
    match c.head with
    | some ' ' => blockIndentation fuel c.step done (max deepest c.step.column)
    | _ =>
      match c.lineBreak? with
      | some (b, c) => blockIndentation fuel c (b :: done) deepest
      | none => (done.reverse, deepest, c)

def skipIndent (indent : Nat) : Nat → Cursor → Cursor
  | 0, c => c
  | fuel + 1, c =>
    if c.column < indent ∧ c.head = some ' ' then skipIndent indent fuel c.step else c

def blockBreaks (indent : Nat) : Nat → Cursor → List Char → List Char × Cursor
  | 0, c, done => (done.reverse, c)
  | fuel + 1, c, done =>
    let c := skipIndent indent indent c
    match c.lineBreak? with
    | some (b, c) => blockBreaks indent fuel c (b :: done)
    | none => (done.reverse, c)

def isBlankChar : Option Char → Bool
  | some c => c == ' ' || c == '\t'
  | none => false

def blockLines (folded : Bool) (indent : Nat) :
    Nat → Cursor → List Char → List Char → List Char → List Char × List Char × List Char × Cursor
  | 0, c, done, breaks, last => (done, last, breaks, c)
  | fuel + 1, c, done, breaks, last =>
    if c.column = indent ∧ !c.rest.isEmpty then
      let flush := !isBlankChar c.head
      let (line, c) := c.span (fun x => !isBreak x)
      let done := done ++ breaks ++ line
      let (last, c) := match c.lineBreak? with
        | some (b, c) => ([b], c)
        | none => ([], c)
      let (breaks, c) := blockBreaks indent (c.rest.length + 1) c []
      if c.column = indent ∧ !c.rest.isEmpty then
        let joined :=
          if folded && last == ['\n'] && flush && !isBlankChar c.head then
            if breaks.isEmpty then [' '] else []
          else last
        blockLines folded indent fuel c (done ++ joined) breaks last
      else (done, last, breaks, c)
    else (done, last, breaks, c)

def blockScalar (folded : Bool) (indent : Int) (c : Cursor) : Result (List Char × Cursor) := do
  let (chomping, increment, c) ← blockIndicators c.step
  let c ← ignoredLine c
  let least := (max (indent + 1) 1).toNat
  let fuel := c.rest.length + 1
  let (depth, breaks, c) := match increment with
    | some n =>
      let depth := least + n - 1
      let (breaks, c) := blockBreaks depth fuel c []
      (depth, breaks, c)
    | none =>
      let (breaks, deepest, c) := blockIndentation fuel c [] 0
      (max least deepest, breaks, c)
  let (text, last, trailing, c) := blockLines folded depth fuel c [] breaks []
  return match chomping with
    | .strip => (text, c)
    | .clip => (text ++ last, c)
    | .keep => (text ++ last ++ trailing, c)

def mayFollowAnchor (next : Option Char) : Bool :=
  endsWord next || match next with
    | some c => "?:,]\x7d%@`".toList.contains c
    | none => true

def anchorName (c : Cursor) : Result (String × Cursor) :=
  let (name, c) := c.step.span isNameChar
  if name.isEmpty || !mayFollowAnchor c.head then reject else .ok (String.ofList name, c)

def isAddressChar (c : Char) : Bool :=
  Text.isAsciiAlnum c || "-;/?:@&=+$,_.!~*'()[]".toList.contains c

def addressEscapes : Nat → Cursor → List UInt8 → Result (List UInt8 × Cursor)
  | 0, c, done => .ok (done.reverse, c)
  | fuel + 1, c, done =>
    match c.rest with
    | '%' :: a :: b :: _ =>
      match hexNumber? [a, b] with
      | some n => addressEscapes fuel (c.forward 3) (n.toUInt8 :: done)
      | none => reject
    | '%' :: _ => reject
    | _ => .ok (done.reverse, c)

def addressFrom : Nat → Cursor → List Char → Result (List Char × Cursor)
  | 0, c, done => .ok (done, c)
  | fuel + 1, c, done =>
    match c.head with
    | some '%' => do
      let (codes, c) ← addressEscapes (c.rest.length + 1) c []
      match String.fromUTF8? ⟨codes.toArray⟩ with
      | some s => addressFrom fuel c (done ++ s.toList)
      | none => reject
    | some x => if isAddressChar x then addressFrom fuel c.step (done ++ [x]) else .ok (done, c)
    | none => .ok (done, c)

def tagAddress (c : Cursor) : Result (String × Cursor) := do
  let (text, c') ← addressFrom (c.rest.length + 1) c []
  if c'.index = c.index then reject else return (String.ofList text, c')

def tagHandle (c : Cursor) : Result (String × Cursor) :=
  match c.rest with
  | '!' :: ' ' :: _ => .ok ("!", c.step)
  | '!' :: rest =>
    let name := rest.takeWhile isNameChar
    match rest.drop name.length with
    | '!' :: _ =>
      .ok (String.ofList ('!' :: name ++ ['!']), c.forward (name.length + 2))
    | _ => reject
  | _ => reject

structure TagText where
  handle : Option String
  suffix : String
  deriving DecidableEq, Repr

def tagText (c : Cursor) : Result (TagText × Cursor) := do
  let (tag, c) ← match c.peek 1 with
    | some '<' => do
      let (address, c) ← tagAddress (c.forward 2)
      if c.head = some '>' then .ok ((⟨none, address⟩ : TagText), c.step) else reject
    | next =>
      if endsWord next then .ok ((⟨none, "!"⟩ : TagText), c.step)
      else if (c.step.rest.takeWhile (fun x => !(x == ' ' || isBreak x))).contains '!' then do
        let (handle, c) ← tagHandle c
        let (suffix, c) ← tagAddress c
        .ok ((⟨some handle, suffix⟩ : TagText), c)
      else do
        let (suffix, c) ← tagAddress c.step
        .ok ((⟨some "!", suffix⟩ : TagText), c)
  if endsEntry c.head then return (tag, c) else reject

inductive Directive
  | version (major : Nat)
  | tagLead (handle address : String)
  | other
  deriving DecidableEq, Repr

def versionNumber (c : Cursor) : Result (Nat × Cursor) :=
  let (ds, c) := c.span Text.isAsciiDigit
  if ds.isEmpty then reject
  else if digitLimit < ds.length then .error (.valueless (tooManyDigits ds.length))
  else .ok (ds.foldl (fun n d => n * 10 + (d.toNat - 48)) 0, c)

def directive (c : Cursor) : Result (Directive × Cursor) := do
  let (name, c) := c.step.span isNameChar
  if name.isEmpty || !endsEntry c.head then reject
  let (d, c) ←
    if name = "YAML".toList then do
      let (major, c) ← versionNumber c.skipSpaces
      if c.head ≠ some '.' then reject
      let (_, c) ← versionNumber c.step
      if !endsEntry c.head then reject
      .ok (Directive.version major, c)
    else if name = "TAG".toList then do
      let (handle, c) ← tagHandle c.skipSpaces
      if c.head ≠ some ' ' then reject
      let (address, c) ← tagAddress c.skipSpaces
      if !endsEntry c.head then reject
      .ok (Directive.tagLead handle address, c)
    else .ok (Directive.other, c.skipLine)
  let c ← ignoredLine c
  return (d, c)

end ClientGen.Yaml
