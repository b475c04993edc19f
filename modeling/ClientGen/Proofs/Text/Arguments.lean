import ClientGen.Text.Alphanumeric
import ClientGen.Text.Quoted
import ClientGen.Text.Split

/-! The arguments of a call in source code: its text is cut at the commas that stand outside of
quoted texts and of brackets. A row of whole arguments, joined by commas, is cut into just these. -/
namespace ClientGen.Text

inductive Place
  | code
  | quoted (mark : Char)
  | escaped (mark : Char)
  deriving DecidableEq

structure Stand where
  closings : List Char
  place : Place
  deriving DecidableEq

def outside : Stand := ⟨[], .code⟩

def closing? (c : Char) : Option Char :=
  match c with
  | '(' => some ')'
  | '[' => some ']'
  | '\x7b' => some '\x7d'
  | _ => none

def Stand.close? (s : Stand) (c : Char) : Option Stand :=
  match s.closings with
  | d :: rest => if c = d then some ⟨rest, .code⟩ else none
  | [] => none

def Stand.step? (s : Stand) (c : Char) : Option Stand :=
  match s.place with
  | .escaped mark => some { s with place := .quoted mark }
  | .quoted mark =>
    if c = '\\' then some { s with place := .escaped mark }
    else if c = mark then some { s with place := .code }
    else some s
  | .code =>
    if c = '"' ∨ c = '\'' then some { s with place := .quoted c }
    else match closing? c with
      | some d => some { s with closings := d :: s.closings }
      | none => if c = ')' ∨ c = ']' ∨ c = '\x7d' then s.close? c else some s

def piecesFrom (s : Stand) (piece : List Char) : List Char → Option (List (List Char))
  | [] => if s = outside then some [piece.reverse] else none
  | c :: rest =>
    if c = ',' ∧ s = outside then (piecesFrom s [] rest).map (piece.reverse :: ·)
    else (s.step? c).bind fun s => piecesFrom s (c :: piece) rest

def arguments? (s : List Char) : Option (List (List Char)) :=
  (piecesFrom outside [] s).map (·.map (·.dropWhile isSpace))

def keyword (argument : List Char) : List Char := argument.takeWhile isAsciiWord

def Stand.along? (s : Stand) : List Char → Option Stand
  | [] => some s
  | c :: rest => if c = ',' ∧ s = outside then none else (s.step? c).bind (·.along? rest)

def Whole (argument : List Char) : Prop :=
  outside.along? argument = some outside ∧ argument.head?.any isSpace = false

theorem alongAppend (s : Stand) (a b : List Char) :
    s.along? (a ++ b) = (s.along? a).bind (·.along? b) := by
  induction a generalizing s with
  | nil => rfl
  | cons c rest ih =>
    rw [List.cons_append, Stand.along?, Stand.along?]
    split
    · rfl
    · cases s.step? c with
      | none => rfl
      | some s => exact ih s

theorem piecesAlong {s t : Stand} {a : List Char} (along : s.along? a = some t)
    (piece b : List Char) : piecesFrom s piece (a ++ b) = piecesFrom t (a.reverse ++ piece) b := by
  induction a generalizing s piece with
  | nil =>
    cases along
    rfl
  | cons c rest ih =>
    rw [Stand.along?] at along
    split at along
    · contradiction
    · rename_i inner
      obtain ⟨u, step, along⟩ := Option.bind_eq_some_iff.mp along
      rw [List.cons_append, piecesFrom, if_neg inner, step, Option.bind_some, ih along]
      simp

theorem trimmedBehind {lead a : List Char} (blank : ∀ c ∈ lead, isSpace c = true)
    (whole : Whole a) : (lead ++ a).dropWhile isSpace = a := by
  rw [List.dropWhile_append_of_pos blank]
  cases a with
  | nil => rfl
  | cons c rest =>
    have first : isSpace c = false := by simpa using whole.2
    rw [List.dropWhile_cons_of_neg (by simp [first])]

theorem piecesJoined {as : List (List Char)} (some : as ≠ []) (whole : ∀ a ∈ as, Whole a)
    (piece : List Char) (blank : ∀ c ∈ piece, isSpace c = true) :
    ∃ pieces, piecesFrom outside piece (joinWith [',', ' '] as) = .some pieces ∧
      pieces.map (·.dropWhile isSpace) = as := by
  induction as generalizing piece with
  | nil => contradiction
  | cons a rest ih =>
    obtain ⟨here, later⟩ := List.forall_mem_cons.mp whole
    have first : (a.reverse ++ piece).reverse.dropWhile isSpace = a := by
      rw [List.reverse_append, List.reverse_reverse]
      exact trimmedBehind (fun c member => blank c (List.mem_reverse.mp member)) here
    have along := piecesAlong here.1 piece
    cases rest with
    | nil =>
      refine ⟨[(a.reverse ++ piece).reverse], ?_, by rw [List.map_singleton, first]⟩
      rw [joinWith, ← List.append_nil a, along, List.append_nil, piecesFrom, if_pos rfl]
    | cons b rest =>
      obtain ⟨pieces, cut, trimmed⟩ :=
        ih (List.cons_ne_nil _ _) later [' '] (List.forall_mem_singleton.mpr rfl)
      refine ⟨(a.reverse ++ piece).reverse :: pieces, ?_, by rw [List.map_cons, first, trimmed]⟩
      have comma (piece s : List Char) : piecesFrom outside piece (',' :: ' ' :: s) =
          (piecesFrom outside [' '] s).map (piece.reverse :: ·) := rfl
      rw [joinWith, List.append_assoc, along, List.cons_append, List.singleton_append, comma, cut]
      · rfl
      · exact List.cons_ne_nil _ _

theorem argumentsJoined {as : List (List Char)} (some : as ≠ []) (whole : ∀ a ∈ as, Whole a) :
    arguments? (joinWith [',', ' '] as) = .some as := by
  obtain ⟨pieces, cut, trimmed⟩ := piecesJoined some whole [] nofun
  rw [arguments?, cut, Option.map_some, trimmed]

theorem hexPlain (width n : Nat) : ∀ c ∈ hex width n, c ≠ '"' ∧ c ≠ '\\' := by
  have digits : ∀ d < 16, hexDigit d ≠ '"' ∧ hexDigit d ≠ '\\' := by decide
  induction width with
  | zero => exact nofun
  | succ width ih =>
    exact List.forall_mem_cons.mpr ⟨digits _ (Nat.mod_lt _ (by decide)), ih⟩

section Quoted

variable (closings : List Char)

theorem plainAlong {s : List Char} (plain : ∀ c ∈ s, c ≠ '"' ∧ c ≠ '\\') :
    Stand.along? ⟨closings, .quoted '"'⟩ s = some ⟨closings, .quoted '"'⟩ := by
  induction s with
  | nil => rfl
  | cons c rest ih =>
    obtain ⟨⟨quote, backslash⟩, later⟩ := List.forall_mem_cons.mp plain
    rw [Stand.along?, if_neg (by simp [outside])]
    simpa [Stand.step?, quote, backslash] using ih later

theorem escapeAlong (c : Char) {s : List Char} (plain : ∀ c ∈ s, c ≠ '"' ∧ c ≠ '\\') :
    Stand.along? ⟨closings, .quoted '"'⟩ ('\\' :: c :: s) = some ⟨closings, .quoted '"'⟩ := by
  rw [← plainAlong closings plain]
  simp [Stand.along?, Stand.step?, outside]

theorem escapedAlong (asciiOnly : Bool) (c : Char) :
    Stand.along? ⟨closings, .quoted '"'⟩ (escapeJson asciiOnly c) =
      some ⟨closings, .quoted '"'⟩ := by
  have short (c : Char) := escapeAlong closings c (s := []) nofun
  have unit (n : Nat) := escapeAlong closings 'u' (hexPlain 4 n)
  have written := escapedWritten asciiOnly c
  generalize escapeJson asciiOnly c = shown at written ⊢
  cases written with
  | marked => exact short c
  | lettered letter => exact short letter
  | plain free => exact plainAlong closings (List.forall_mem_singleton.mpr (not_or.mp free))
  | unit => exact unit _
  | units => rw [alongAppend, jsonUnit, unit, Option.bind_some, jsonUnit, unit]

theorem quotedAlong (asciiOnly : Bool) (s : List Char) :
    Stand.along? ⟨closings, .code⟩ (jsonQuoted asciiOnly s) = some ⟨closings, .code⟩ := by
  have inside : Stand.along? ⟨closings, .quoted '"'⟩ (s.flatMap (escapeJson asciiOnly)) =
      some ⟨closings, .quoted '"'⟩ := by
    induction s with
    | nil => rfl
    | cons c rest ih => rw [List.flatMap_cons, alongAppend, escapedAlong, Option.bind_some, ih]
  have opens : Stand.along? ⟨closings, .code⟩ ['"'] = some ⟨closings, .quoted '"'⟩ := by
    simp [Stand.along?, Stand.step?]
  have closes : Stand.along? ⟨closings, .quoted '"'⟩ ['"'] = some ⟨closings, .code⟩ := by
    simp [Stand.along?, Stand.step?, outside]
  change Stand.along? _ (['"'] ++ (s.flatMap (escapeJson asciiOnly) ++ ['"'])) = _
  rw [alongAppend, opens, Option.bind_some, alongAppend, inside, Option.bind_some, closes]

end Quoted

end ClientGen.Text
