import ClientGen.Proofs.Naming.Identifier
import ClientGen.Proofs.Naming.Letters
import ClientGen.Proofs.Text.Runs

/-! When two texts have one identifier: just if their snake cases have the same words, the runs of
ASCII letters and digits. To keep an identifier apart from numbers and reserved words never merges
two of them, and makes it a name. -/
namespace ClientGen

namespace Text

theorem stripBefore (c : Char) (s : List Char) : stripChar c (c :: s) = stripChar c s := by
  rw [stripSides, List.dropWhile_cons_of_pos (by simp), ← stripSides]

theorem stripBehind (c : Char) (s : List Char) : stripChar c (s ++ [c]) = stripChar c s := by
  rw [stripSides, stripSides, List.dropWhile_append]
  cases s.dropWhile (· = c) <;> simp [stripEnd]

theorem stripTwice (c : Char) (s : List Char) : stripChar c (stripChar c s) = stripChar c s := by
  have lead : (stripChar c s).dropWhile (· = c) = stripChar c s := by
    cases stripped : stripChar c s with
    | nil => rfl
    | cons a rest => rw [List.dropWhile_cons_of_neg (by simpa using stripLead stripped)]
  rw [stripSides, lead, stripSides, stripEnd, stripEnd, List.reverse_reverse,
    List.dropWhile_idempotent]

end Text

namespace Naming
open Text

def nameWords (s : List Char) : List (List Char) := runs isAsciiAlnum (snakeCase s)

theorem nameWord (s : List Char) : ∀ w ∈ nameWords s, w ≠ [] ∧ '_' ∉ w := by
  intro w member
  obtain ⟨some, own⟩ := runsRun (snakeCase s) w member
  exact ⟨some, fun there => absurd (own '_' there) (by decide)⟩

theorem bareJoined (s : List Char) : bareIdentifier s = joinWith ['_'] (nameWords s) := by
  have same (c : Char) :
      (if isAsciiWord c then c else '_') = if isAsciiAlnum c then c else '_' := by
    cases letter : isAsciiAlnum c with
    | true => simp [isAsciiWord, letter]
    | false => by_cases line : c = '_' <;> simp [isAsciiWord, letter, line]
  rw [bareIdentifier, List.map_congr_left fun c _ => same c, stripForeign (by decide), nameWords]

theorem guardStrips {name : List Char} (bare : stripChar '_' name = name) :
    stripChar '_' (guardIdentifier name) = name := by
  obtain ⟨before, after, lead, tail, same⟩ := guardAround name
  have ended : stripChar '_' (before ++ name ++ after) = stripChar '_' (before ++ name) := by
    rcases tail with rfl | rfl
    · rw [List.append_nil]
    · exact stripBehind '_' _
  have begun : stripChar '_' (before ++ name) = stripChar '_' name := by
    rcases lead with rfl | rfl
    · rfl
    · exact stripBefore '_' name
  rw [same, ended, begun, bare]

theorem identifierSame {s t : List Char} :
    identifier s = identifier t ↔ nameWords s = nameWords t := by
  have bare (s : List Char) : stripChar '_' (identifier s) = bareIdentifier s :=
    guardStrips (stripTwice '_' _)
  constructor
  · intro same
    have joined := congrArg (stripChar '_') same
    rw [bare, bare, bareJoined, bareJoined] at joined
    exact joinOnce (List.forall_mem_append.mpr ⟨nameWord s, nameWord t⟩) joined
  · intro same
    rw [identifier, identifier, bareJoined, bareJoined, same]

theorem guardIsName {name : List Char} (word : ∀ a ∈ name, isAsciiWord a = true) :
    Language.python.isName (guardIdentifier name) = true := by
  have line : isNameStart '_' = true := asciiWordStart (by decide) (by decide)
  unfold guardIdentifier
  split
  · exact Language.nameIff.mpr ⟨line, List.forall_mem_nil _, by decide⟩
  · rename_i c rest
    obtain ⟨here, later⟩ := List.forall_mem_cons.mp word
    have led : ∃ d more, (if isAsciiDigit c then '_' :: c :: rest else c :: rest) = d :: more ∧
        isNameStart d = true ∧ ∀ a ∈ more, isAsciiWord a = true := by
      split
      · exact ⟨_, _, rfl, line, word⟩
      · rename_i letter
        exact ⟨_, _, rfl, asciiWordStart here (by simpa using letter), later⟩
    dsimp only
    obtain ⟨d, more, same, start, tail⟩ := led
    rw [same]
    have parts : ∀ a ∈ more, Language.python.isNamePart a = true :=
      fun a member => asciiWordPart (tail a member)
    split
    · refine Language.nameIff.mpr ⟨start, ?_, fun reserved member same => ?_⟩
      · exact List.forall_mem_append.mpr
          ⟨parts, List.forall_mem_singleton.mpr (asciiWordPart (by decide))⟩
      · apply Language.reservedPlain reserved member
        simp [same]
    · rename_i free
      refine Language.nameIff.mpr ⟨start, parts, fun reserved member same => free ?_⟩
      exact List.any_eq_true.mpr ⟨reserved, member, decide_eq_true same⟩

theorem identifierIsName (s : List Char) : Language.python.isName (identifier s) = true :=
  guardIsName (bareWord s)

def pythonName (name : String) : Node := .str (String.ofList (identifier name.toList))

theorem pythonNameSame {a b : String} :
    pythonName a = pythonName b ↔ nameWords a.toList = nameWords b.toList := by
  rw [← identifierSame, pythonName, pythonName, Node.str.injEq, String.ofList_inj]

theorem pythonNamesApart (names : List String) :
    (names.map pythonName).Nodup ↔ (names.map fun n => nameWords n.toList).Nodup := by
  simp only [List.Nodup, List.pairwise_map, ne_eq, pythonNameSame]

end Naming
end ClientGen
