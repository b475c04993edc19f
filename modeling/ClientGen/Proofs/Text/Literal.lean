import ClientGen.Language
import ClientGen.Text.Unescaped
import Mathlib.Tactic.Ring

/-! What a quoted text in a source file stands for. The languages count texts in units of their own:
Python in characters, where half of a pair may stand alone, and TypeScript in the halves of UTF-16.
JSON writes a character beyond sixteen bits as two halves; Python does not join them again. In
TypeScript, a text put between quotes as it is stands for itself just if nothing in it has to be
escaped. -/
namespace ClientGen

namespace Text

def halves (n : Nat) : List Nat :=
  if n < 0x10000 then [n] else [0xd800 + (n - 0x10000) / 0x400, 0xdc00 + (n - 0x10000) % 0x400]

def hexNumber? : Nat → Nat → List Char → Option (Nat × List Char)
  | 0, n, s => some (n, s)
  | _ + 1, _, [] => none
  | width + 1, n, c :: rest => (hexValue? c).bind fun d => hexNumber? width (n * 16 + d) rest

def bracedNumber? (s : List Char) : Option (Nat × List Char) :=
  let width := (s.takeWhile fun c => (hexValue? c).isSome).length
  match hexNumber? width 0 s with
  | some (n, '\x7d' :: rest) => if 0 < width ∧ n < 0x110000 then some (n, rest) else none
  | _ => none

def behindReturn : List Char → List Char
  | '\n' :: rest => rest
  | rest => rest

end Text

namespace Language
open Text

def units : Language → Char → List Nat
  | .python, c => [c.toNat]
  | .typescript, c => halves c.toNat

def breaksText : Language → Char → Bool
  | .python, c => c == '\n' || c == '\r' || c == '\x00'
  | .typescript, c => c == '\n' || c == '\r'

def pythonEscape? (c : Char) (rest : List Char) : Option (List Nat × List Char) :=
  match shortEscape? c, hexWidth? c with
  | some e, _ => some ([e.toNat], rest)
  | none, some width =>
    ((hexNumber? width 0 rest).filter (·.1 < 0x110000)).map fun found => ([found.1], found.2)
  | none, none =>
    if c = '\n' then some ([], rest)
    else if c = '\r' then some ([], behindReturn rest)
    else if c = '\x00' then none
    else if c = 'N' then (bracedChar? rest).map fun found => ([found.1.toNat], found.2)
    else if isOctal c then
      let digits := c :: (rest.take 2).takeWhile isOctal
      some ([digits.foldl (fun n d => n * 8 + (d.toNat - 48)) 0], rest.drop (digits.length - 1))
    else some (['\\'.toNat, c.toNat], rest)

def scriptEscape? (c : Char) (rest : List Char) : Option (List Nat × List Char) :=
  match if c = 'a' then none else shortEscape? c with
  | some e => some ([e.toNat], rest)
  | none =>
    if c = '\n' ∨ c = '\u2028' ∨ c = '\u2029' then some ([], rest)
    else if c = '\r' then some ([], behindReturn rest)
    else if c = 'x' then (hexNumber? 2 0 rest).map fun found => ([found.1], found.2)
    else if c = 'u' then
      match rest with
      | '\x7b' :: rest => (bracedNumber? rest).map fun found => (halves found.1, found.2)
      | rest => (hexNumber? 4 0 rest).map fun found => ([found.1], found.2)
    else if isAsciiDigit c then
      if c = '0' ∧ !rest.head?.any isAsciiDigit then some ([0], rest) else none
    else some (halves c.toNat, rest)

def escape? : Language → Char → List Char → Option (List Nat × List Char)
  | .python => pythonEscape?
  | .typescript => scriptEscape?

inductive Inside (language : Language) : List Char → List Nat → Prop
  | close : Inside language ['"'] []
  | plain {c rest us} (own : c ≠ '"' ∧ c ≠ '\\') (whole : language.breaksText c = false)
      (later : Inside language rest us) : Inside language (c :: rest) (language.units c ++ us)
  | escape {c rest us left vs} (found : language.escape? c rest = some (us, left))
      (later : Inside language left vs) : Inside language ('\\' :: c :: rest) (us ++ vs)

def Denotes (language : Language) (literal : List Char) (us : List Nat) : Prop :=
  ∃ inside, literal = '"' :: inside ∧ language.Inside inside us

variable {language : Language}

theorem insideOnce {s : List Char} {us vs : List Nat} (left : language.Inside s us)
    (right : language.Inside s vs) : us = vs := by
  induction left generalizing vs with
  | close =>
    cases right with
    | close => rfl
    | plain own => exact absurd rfl own.1
  | plain own whole later ih =>
    cases right with
    | close => exact absurd rfl own.1
    | plain _ _ later' => rw [ih later']
    | escape => exact absurd rfl own.2
  | escape found later ih =>
    cases right with
    | plain own => exact absurd rfl own.2
    | escape found' later' =>
      cases found.symm.trans found'
      rw [ih later']

theorem denotesOnce {literal : List Char} {us vs : List Nat} (left : language.Denotes literal us)
    (right : language.Denotes literal vs) : us = vs := by
  obtain ⟨inside, rfl, left⟩ := left
  obtain ⟨_, same, right⟩ := right
  cases same
  exact insideOnce left right

end Language

namespace Text

theorem charBound (c : Char) : c.toNat < 0x110000 := by
  have valid := c.valid
  simp only [UInt32.isValidChar, Nat.isValidChar] at valid
  simp only [Char.toNat]
  omega

theorem halvesSmall {n : Nat} (small : n < 0x10000) : halves n = [n] := if_pos small

theorem halvesFew (n : Nat) : 1 ≤ (halves n).length ∧ (halves n).length ≤ 2 := by
  unfold halves
  split <;> simp

end Text

namespace Language
open Text

abbrev size (s : List Char) : Nat := (s.flatMap Language.typescript.units).length

theorem sizeCons (c : Char) (rest : List Char) :
    size (c :: rest) = (halves c.toNat).length + size rest := by
  simp [units]

theorem sizeBound (s : List Char) : s.length ≤ size s := by
  induction s with
  | nil => exact Nat.le_refl _
  | cons c rest ih =>
    have here := (halvesFew c.toNat).1
    rw [sizeCons, List.length_cons]
    omega

theorem pythonLength (s : List Char) : (s.flatMap Language.python.units).length = s.length := by
  induction s with
  | nil => rfl
  | cons c rest ih => simp [units, ih]

-- The two languages count a text alike just if it has no character of two halves.
theorem unitsAlike {s : List Char} :
    s.flatMap Language.typescript.units = s.flatMap Language.python.units ↔
      ∀ c ∈ s, c.toNat < 0x10000 := by
  induction s with
  | nil => simp
  | cons c rest ih =>
    rw [List.flatMap_cons, List.flatMap_cons, List.forall_mem_cons]
    constructor
    · intro same
      have below : c.toNat < 0x10000 := by
        refine Nat.not_le.mp fun above => ?_
        have two : (units .typescript c).length = 2 := by
          simp [units, halves, Nat.not_lt.mpr above]
        have one : (units .python c).length = 1 := rfl
        have lengths := congrArg List.length same
        have behind : rest.length ≤ (rest.flatMap Language.typescript.units).length :=
          sizeBound rest
        rw [List.length_append, List.length_append, pythonLength] at lengths
        omega
      refine ⟨below, ih.mp ?_⟩
      simpa [units, halvesSmall below] using same
    · rintro ⟨below, later⟩
      rw [ih.mpr later]
      simp [units, halvesSmall below]

end Language

namespace Text

theorem hexDigitValue : ∀ d < 16, hexValue? (hexDigit d) = some d := by decide

theorem hexRead (width n m : Nat) (rest : List Char) :
    hexNumber? width m (hex width n ++ rest) = some (m * 16 ^ width + n % 16 ^ width, rest) := by
  induction width generalizing m with
  | zero => simp [hexNumber?, hex, Nat.mod_one]
  | succ width ih =>
    have digit : n / 16 ^ width % 16 < 16 := Nat.mod_lt _ (by decide)
    have whole : n % 16 ^ (width + 1) = n % 16 ^ width + 16 ^ width * (n / 16 ^ width % 16) := by
      rw [Nat.pow_succ, Nat.mod_mul]
    rw [hex, List.cons_append, hexNumber?]
    change (hexValue? (hexDigit (n / 16 ^ width % 16))).bind _ = _
    rw [hexDigitValue _ digit, Option.bind_some, ih, whole, Nat.pow_succ]
    congr 2
    ring

end Text

namespace Language
open Text

theorem unitRead {n : Nat} (small : n < 16 ^ 4) {rest : List Char} {us : List Nat}
    (later : Language.python.Inside rest us) :
    Language.python.Inside (jsonUnit n ++ rest) (n :: us) := by
  have found : Language.python.escape? 'u' (hex 4 n ++ rest) = some ([n], rest) := by
    have read := hexRead 4 n 0 rest
    rw [Nat.zero_mul, Nat.zero_add, Nat.mod_eq_of_lt small] at read
    have point : n < 0x110000 := Nat.lt_of_lt_of_le small (by decide)
    simp [escape?, pythonEscape?, shortEscape?, hexWidth?, read, Option.filter, point]
  exact .escape found later

theorem shortRead {c e : Char} (known : shortEscape? e = some c) {rest : List Char}
    {us : List Nat} (later : Language.python.Inside rest us) :
    Language.python.Inside ('\\' :: e :: rest) (c.toNat :: us) := by
  have found : Language.python.escape? e rest = some ([c.toNat], rest) := by
    simp [escape?, pythonEscape?, known]
  exact .escape found later

theorem escapedRead (c : Char) {rest : List Char} {us : List Nat}
    (later : Language.python.Inside rest us) :
    Language.python.Inside (escapeJson true c ++ rest) (Language.typescript.units c ++ us) := by
  change Language.python.Inside _ (halves c.toNat ++ us)
  have written := escapedWritten true c
  generalize escapeJson true c = shown at written ⊢
  cases written with
  | marked own =>
    rcases own with rfl | rfl
    · exact shortRead rfl later
    · exact shortRead rfl later
  | lettered letter known =>
    have named : ∀ p ∈ controlLetters, (shortEscape? p.1).map Char.toNat = some p.2 := by decide
    have ascii : ∀ p ∈ controlLetters, p.2 < 0x10000 := by decide
    obtain ⟨d, found, same⟩ := Option.map_eq_some_iff.mp (named _ known)
    rw [halvesSmall (ascii _ known), ← same]
    exact shortRead found later
  | plain free shown ascii =>
    have ascii : c.toNat < 127 := ascii rfl
    have own (d : Char) (control : d.toNat < 32) : c ≠ d := by
      rintro rfl
      omega
    have whole : Language.python.breaksText c = false := by
      simp [breaksText, own '\n' (by decide), own '\r' (by decide), own '\x00' (by decide)]
    rw [halvesSmall (by omega)]
    exact .plain (not_or.mp free) whole later
  | unit single =>
    rw [halvesSmall single]
    exact unitRead single later
  | units double =>
    have valid : c.toNat < 0x110000 := charBound c
    rw [halves, if_neg double, List.append_assoc]
    exact unitRead (by omega) (unitRead (by omega) later)

theorem jsonRead (s : List Char) :
    Language.python.Denotes (jsonQuoted true s) (s.flatMap Language.typescript.units) := by
  refine ⟨s.flatMap (escapeJson true) ++ ['"'], rfl, ?_⟩
  induction s with
  | nil => exact .close
  | cons c rest ih =>
    rw [List.flatMap_cons, List.flatMap_cons, List.append_assoc]
    exact escapedRead c ih

variable {language : Language}

theorem bareRead {s : List Char}
    (bare : ∀ c ∈ s, c ≠ '"' ∧ c ≠ '\\' ∧ language.breaksText c = false) :
    language.Inside (s ++ ['"']) (s.flatMap language.units) := by
  induction s with
  | nil => exact .close
  | cons c rest ih =>
    obtain ⟨⟨quote, backslash, whole⟩, later⟩ := List.forall_mem_cons.mp bare
    exact .plain ⟨quote, backslash⟩ whole (ih later)

theorem bareInside {s : List Char} {us : List Nat} (inside : language.Inside s us)
    (plain : '\\' ∉ s) :
    ∃ t, s = t ++ ['"'] ∧ ∀ c ∈ t, c ≠ '"' ∧ c ≠ '\\' ∧ language.breaksText c = false := by
  induction inside with
  | close => exact ⟨[], rfl, nofun⟩
  | @plain c rest us own whole later ih =>
    obtain ⟨t, rfl, bare⟩ := ih fun member => plain (List.mem_cons_of_mem _ member)
    exact ⟨c :: t, rfl, List.forall_mem_cons.mpr ⟨⟨own.1, own.2, whole⟩, bare⟩⟩
  | escape => exact absurd List.mem_cons_self plain

theorem hexTaken {width n m : Nat} {s left : List Char}
    (found : hexNumber? width n s = some (m, left)) : size left + width ≤ size s := by
  induction width generalizing n s with
  | zero =>
    cases found
    exact Nat.le_refl _
  | succ width ih =>
    cases s with
    | nil => cases found
    | cons c rest =>
      obtain ⟨d, _, found⟩ := Option.bind_eq_some_iff.mp found
      have behind := ih found
      have here := (halvesFew c.toNat).1
      rw [sizeCons]
      omega

theorem bracedTaken {n : Nat} {s left : List Char} (found : bracedNumber? s = some (n, left)) :
    size left + 2 ≤ size s := by
  unfold bracedNumber? at found
  dsimp only at found
  split at found
  · rename_i m rest read
    split at found
    · rename_i fits
      cases found
      have taken := hexTaken read
      have brace := (halvesFew '\x7d'.toNat).1
      rw [sizeCons] at taken
      omega
    · cases found
  · cases found

theorem returnTaken (s : List Char) : size (behindReturn s) ≤ size s := by
  unfold behindReturn
  split
  · rw [sizeCons]
    exact Nat.le_add_left _ _
  · exact Nat.le_refl _

theorem escapeTaken {c : Char} {rest left : List Char} {us : List Nat}
    (found : Language.typescript.escape? c rest = some (us, left)) :
    us.length + size left ≤ size (c :: rest) := by
  have here := (halvesFew c.toNat).1
  rw [sizeCons]
  change scriptEscape? c rest = some (us, left) at found
  unfold scriptEscape? at found
  split at found
  · cases found
    simp only [List.length_singleton]
    omega
  split at found
  · cases found
    simp only [List.length_nil]
    omega
  split at found
  · cases found
    have taken := returnTaken rest
    simp only [List.length_nil]
    omega
  split at found
  · obtain ⟨⟨n, left⟩, read, same⟩ := Option.map_eq_some_iff.mp found
    cases same
    have taken := hexTaken read
    simp only [List.length_singleton]
    omega
  split at found
  · split at found
    · obtain ⟨⟨n, left⟩, read, same⟩ := Option.map_eq_some_iff.mp found
      cases same
      have taken := bracedTaken read
      have few := (halvesFew n).2
      rw [sizeCons]
      change (halves n).length + size left ≤ _
      omega
    · obtain ⟨⟨n, left⟩, read, same⟩ := Option.map_eq_some_iff.mp found
      cases same
      have taken := hexTaken read
      simp only [List.length_singleton]
      omega
  split at found
  · split at found
    · cases found
      simp only [List.length_singleton]
      omega
    · cases found
  · cases found
    exact Nat.le_refl _

theorem insideTaken {s : List Char} {us : List Nat} (inside : Language.typescript.Inside s us) :
    us.length + 1 ≤ size s ∧ ('\\' ∈ s → us.length + 1 < size s) := by
  induction inside with
  | close => exact ⟨by decide, by simp⟩
  | @plain c rest us own whole later ih =>
    rw [sizeCons, List.length_append, units]
    refine ⟨by omega, fun member => ?_⟩
    have inside := ih.2 ((List.mem_cons.mp member).resolve_left (Ne.symm own.2))
    omega
  | @escape c rest us left vs found later ih =>
    have taken := escapeTaken found
    have mark := (halvesFew '\\'.toNat).1
    rw [sizeCons, List.length_append]
    exact ⟨by omega, fun _ => by omega⟩

theorem bareDenotes {s : List Char} :
    Language.typescript.Denotes ('"' :: s ++ ['"']) (s.flatMap Language.typescript.units) ↔
      ∀ c ∈ s, c ≠ '"' ∧ c ≠ '\\' ∧ Language.typescript.breaksText c = false := by
  constructor
  · rintro ⟨_, same, inside⟩
    obtain rfl : s ++ ['"'] = _ := (List.cons.inj same).2
    have plain : '\\' ∉ s ++ ['"'] := by
      intro member
      have longer := (insideTaken inside).2 member
      rw [size, List.flatMap_append, List.length_append] at longer
      have quote : (['"'].flatMap Language.typescript.units).length = 1 := by decide
      omega
    obtain ⟨t, same, bare⟩ := bareInside inside plain
    rwa [List.append_cancel_right same]
  · exact fun bare => ⟨s ++ ['"'], rfl, bareRead bare⟩

end Language
end ClientGen
