import ClientGen.Proofs.Naming.Words

/-! What identifiers are made of, and that an identifier is its own. Lowering leaves no capital, so an
identifier is a text of ASCII lower-case letters, digits and underscores, which snake case does not
change; and its words are those that it was joined from. -/
namespace ClientGen

namespace Text

def isPlain (c : Char) : Bool := isAsciiLower c || isAsciiDigit c || c == '_'

theorem capitalIff {c : Char} : isAsciiUpper c = true ↔ 65 ≤ c.toNat ∧ c.toNat ≤ 90 := by
  simp only [isAsciiUpper, decide_eq_true_eq, Char.le_def, UInt32.le_iff_toNat_le]
  rfl

theorem plainIff {c : Char} :
    isPlain c = true ↔ isAsciiWord c = true ∧ isAsciiUpper c = false := by
  have lower (small : isAsciiLower c = true) : isAsciiUpper c = false := by
    simp only [isAsciiLower, decide_eq_true_eq, Char.le_def, UInt32.le_iff_toNat_le] at small
    have above : 97 ≤ c.toNat := small.1
    rw [Bool.eq_false_iff, ne_eq, capitalIff]
    omega
  have digit (digit : isAsciiDigit c = true) : isAsciiUpper c = false := by
    simp only [isAsciiDigit, decide_eq_true_eq, Char.le_def, UInt32.le_iff_toNat_le] at digit
    have below : c.toNat ≤ 57 := digit.2
    rw [Bool.eq_false_iff, ne_eq, capitalIff]
    omega
  have line (same : c = '_') : isAsciiUpper c = false := by
    subst same
    decide
  simp only [isPlain, isAsciiWord, isAsciiAlnum, Bool.or_eq_true, beq_iff_eq]
  constructor
  · intro plain
    rcases plain with (small | number) | same
    · exact ⟨.inl (.inl (.inr small)), lower small⟩
    · exact ⟨.inl (.inr number), digit number⟩
    · exact ⟨.inr same, line same⟩
  · rintro ⟨word, small⟩
    simpa [small] using word

theorem plainSpace {c : Char} (plain : isPlain c = true) : isSpace c = false := by
  have within : 48 ≤ c.toNat ∧ c.toNat ≤ 122 := by
    simp only [isPlain, isAsciiLower, isAsciiDigit, Bool.or_eq_true, decide_eq_true_eq, beq_iff_eq,
      Char.le_def, UInt32.le_iff_toNat_le] at plain
    rcases plain with (⟨low, high⟩ | ⟨low, high⟩) | rfl
    · exact ⟨Nat.le_trans (by decide) low, high⟩
    · exact ⟨low, Nat.le_trans high (by decide)⟩
    · decide
  exact disjointOutside (by decide) within.1 within.2

theorem runsBeyond : ∀ r ∈ lowerRuns, 90 < r.first + r.offset := by decide +kernel

theorem beyondSmall {n : Nat} (beyond : 90 < n) : isAsciiUpper (Char.ofNat n) = false := by
  rw [Bool.eq_false_iff, ne_eq, capitalIff]
  by_cases valid : n.isValidChar
  · have same : (Char.ofNat n).toNat = n := by
      rw [Char.ofNat, dif_pos valid]
      rfl
    omega
  · rw [Char.ofNat, dif_neg valid]
    decide

theorem lowerCharSmall {c d : Char} (member : d ∈ lowerChar c) : isAsciiUpper d = false := by
  unfold lowerChar at member
  by_cases ascii : c.toNat < 128
  · rw [if_pos ascii, List.mem_singleton] at member
    subst member
    split
    · rename_i capital
      have := (capitalIff.mp capital).1
      exact beyondSmall (by omega)
    · rename_i small
      exact Bool.eq_false_iff.mpr small
  · rw [if_neg ascii] at member
    split at member
    · rcases List.mem_cons.mp member with rfl | last
      · decide
      · rw [List.mem_singleton.mp last]
        decide
    · rw [List.mem_singleton] at member
      subst member
      unfold applyRuns
      split
      · rename_i r found
        have covered : r.covers c.toNat = true := by simpa using List.find?_some found
        have low := (of_decide_eq_true covered).1
        have beyond := runsBeyond r (List.mem_of_find?_eq_some found)
        exact beyondSmall (by omega)
      · rw [Bool.eq_false_iff, ne_eq, capitalIff]
        omega

theorem lowerSmall (s : List Char) : ∀ d ∈ lower s, isAsciiUpper d = false := by
  have from_ (before : List Char) : ∀ d ∈ lowerFrom before s, isAsciiUpper d = false := by
    induction s generalizing before with
    | nil => exact fun _ => nofun
    | cons c rest ih =>
      refine List.forall_mem_append.mpr ⟨?_, ih _⟩
      split
      · split
        · exact List.forall_mem_singleton.mpr (by decide)
        · exact List.forall_mem_singleton.mpr (by decide)
      · exact fun d => lowerCharSmall
  exact from_ []

theorem lowerPlain {s : List Char} (plain : ∀ c ∈ s, isPlain c = true) : lower s = s := by
  have from_ (before : List Char) : lowerFrom before s = s := by
    induction s generalizing before with
    | nil => rfl
    | cons c rest ih =>
      obtain ⟨here, later⟩ := List.forall_mem_cons.mp plain
      obtain ⟨word, small⟩ := plainIff.mp here
      have ascii := asciiWordSmall word
      have other : c ≠ 'Σ' := by
        rintro rfl
        exact absurd ascii (by decide)
      rw [lowerFrom, if_neg other, lowerChar, if_pos ascii, if_neg (by simp [small]), ih later]
      rfl
  exact from_ []

end Text

namespace Naming
open Text

variable {s : List Char}

theorem snakePlain (plain : ∀ c ∈ s, isPlain c = true) : snakeCase s = s := by
  have unmarked (previous : Option Char) : markBoundaries previous s = s := by
    induction s generalizing previous with
    | nil => rfl
    | cons c rest ih =>
      obtain ⟨here, later⟩ := List.forall_mem_cons.mp plain
      have none : boundaryBefore previous c rest.head? = false := by
        simp [boundaryBefore, (plainIff.mp here).2]
      rw [markBoundaries, none, ih later]
      rfl
  rw [snakeCase, unmarked, lowerPlain plain]

structure Normal (s : List Char) : Prop where
  some : s ≠ []
  plain : ∀ c ∈ s, isAsciiLower c = true ∨ isAsciiDigit c = true ∨ c = '_'
  lead : ∀ c rest, s = c :: rest → isAsciiDigit c = false
  free : isReserved s = false

theorem barePlain (s : List Char) : ∀ c ∈ bareIdentifier s, isPlain c = true := by
  intro c member
  obtain ⟨d, there, rfl⟩ := List.mem_map.mp (collapseMember (stripMember member))
  split
  · rename_i word
    exact plainIff.mpr ⟨word, lowerSmall _ d there⟩
  · decide

theorem identifierPlain (s : List Char) : ∀ c ∈ identifier s, isPlain c = true := by
  intro c member
  rcases guardMember member with bare | rfl
  · exact barePlain s c bare
  · decide

theorem identifierNormal (s : List Char) : Normal (identifier s) := by
  have named := identifierIsName s
  cases here : identifier s with
  | nil =>
    rw [here] at named
    exact absurd named (by decide)
  | cons c rest =>
    rw [here] at named
    obtain ⟨start, _, free⟩ := Language.nameIff.mp named
    refine ⟨List.cons_ne_nil c rest, fun d member => ?_, fun d more same => ?_, ?_⟩
    · have plain := identifierPlain s d (here ▸ member)
      simpa [isPlain, or_assoc] using plain
    · obtain ⟨rfl, rfl⟩ := List.cons.inj same
      cases digit : isAsciiDigit c with
      | false => rfl
      | true =>
        have ascii := asciiWordSmall (c := c) (by simp [isAsciiWord, isAsciiAlnum, digit])
        have start : isNameStart c = true := start
        simp [isNameStart, isDecimal, decimalValue?, ascii, digit] at start
    · rw [isReserved, Bool.eq_false_iff, ne_eq, List.any_eq_true]
      rintro ⟨word, member, same⟩
      exact free word member (of_decide_eq_true same)

theorem guardRuns (name : List Char) :
    runs isAsciiAlnum (guardIdentifier name) = runs isAsciiAlnum name := by
  have foreign : isAsciiAlnum '_' = false := by decide
  obtain ⟨before, after, lead, tail, same⟩ := guardAround name
  have ended : runs isAsciiAlnum (before ++ name ++ after) = runs isAsciiAlnum (before ++ name) := by
    rcases tail with rfl | rfl
    · rw [List.append_nil]
    · exact runsEnded foreign _
  have begun : runs isAsciiAlnum (before ++ name) = runs isAsciiAlnum name := by
    rcases lead with rfl | rfl
    · rfl
    · exact runsForeign foreign name
  rw [same, ended, begun]

theorem nameWordsKept (s : List Char) : nameWords (identifier s) = nameWords s := by
  have words : ∀ w ∈ nameWords s, w ≠ [] ∧ ∀ a ∈ w, isAsciiAlnum a = true := runsRun _
  rw [nameWords, snakePlain (identifierPlain s), identifier, guardRuns, bareJoined,
    runsJoined (by decide) words]

theorem identifierAgain (s : List Char) : identifier (identifier s) = identifier s :=
  identifierSame.mpr (nameWordsKept s)

theorem typeNamePlain (plain : ∀ c ∈ s, isPlain c = true) : typeName s = s := by
  rw [typeName, words, runsFlat, List.filter_eq_self]
  exact fun c member => by rw [plainSpace (plain c member)]; rfl

theorem namespaceKeyAgain (name : List Char) :
    namespaceKey (namespaceKey name) = namespaceKey name := by
  have plain : ∀ c ∈ namespaceKey name, isPlain c = true := identifierPlain _
  have again : namespaceKey (namespaceKey name) = identifier (namespaceKey name) := by
    rw [namespaceKey, typeNamePlain plain, snakePlain plain]
  rw [again]
  exact identifierAgain _

end Naming
end ClientGen
