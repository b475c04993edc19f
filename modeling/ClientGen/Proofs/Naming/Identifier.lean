import ClientGen.Naming

/-! What identifiers look like. They consist of ASCII letters, digits and underscores, they are
never empty, and no two underscores stand in front. A type name has the characters of its title
that are no blanks. -/
namespace ClientGen

namespace Text

theorem collapseMember {c a : Char} {s : List Char} (member : a ∈ collapse c s) : a ∈ s := by
  induction s with
  | nil => exact member
  | cons first rest ih =>
    simp only [collapse] at member
    split at member
    · exact List.mem_cons.mpr (.inl (List.mem_singleton.mp member))
    · rename_i b more kept
      rw [kept] at ih
      split at member
      · exact List.mem_cons_of_mem _ (ih member)
      · rcases List.mem_cons.mp member with rfl | later
        · exact List.mem_cons_self
        · exact List.mem_cons_of_mem _ (ih later)

theorem stripPrefix (c : Char) (s : List Char) : stripChar c s <+: s.dropWhile (· = c) := by
  have suffix := List.dropWhile_suffix (· = c) (l := (s.dropWhile (· = c)).reverse)
  unfold stripChar
  rw [← List.reverse_suffix, List.reverse_reverse]
  exact suffix

theorem stripMember {c a : Char} {s : List Char} (member : a ∈ stripChar c s) : a ∈ s :=
  (List.dropWhile_suffix _).subset ((stripPrefix c s).subset member)

theorem stripLead {c a : Char} {s rest : List Char} (here : stripChar c s = a :: rest) : a ≠ c := by
  obtain ⟨more, whole⟩ := stripPrefix c s
  rw [here] at whole
  have first := List.head?_dropWhile_not (· = c) s
  rw [← whole] at first
  simpa using first

theorem runsFromMember {p : Char → Bool} {run s : List Char} {a : Char}
    (ok : ∀ b ∈ run, p b = true) :
    a ∈ (runsFrom p run s).flatten ↔ a ∈ run ∨ a ∈ s ∧ p a = true := by
  induction s generalizing run with
  | nil => cases run <;> simp [runsFrom, or_comm]
  | cons c rest ih =>
    cases fits : p c with
    | true =>
      have all : ∀ b ∈ c :: run, p b = true := List.forall_mem_cons.mpr ⟨fits, ok⟩
      simp only [runsFrom, fits, ↓reduceIte, ih all, List.mem_cons]
      constructor
      · rintro ((rfl | old) | new)
        · exact .inr ⟨.inl rfl, fits⟩
        · exact .inl old
        · exact .inr ⟨.inr new.1, new.2⟩
      · rintro (old | ⟨rfl | new, own⟩)
        · exact .inl (.inr old)
        · exact .inl (.inl rfl)
        · exact .inr ⟨new, own⟩
    | false =>
      have apart : p a = true → a ≠ c := by
        rintro own rfl
        rw [fits] at own
        contradiction
      have later := @ih [] (by simp)
      cases run with
      | nil =>
        simp only [runsFrom, fits, Bool.false_eq_true, ↓reduceIte, List.isEmpty_nil, later]
        grind
      | cons b run =>
        simp only [runsFrom, fits, Bool.false_eq_true, ↓reduceIte, List.isEmpty_cons,
          List.flatten_cons, List.mem_append, List.mem_reverse, later]
        grind

end Text

namespace Naming
open Text

theorem typeNameMember {a : Char} {title : List Char} :
    a ∈ typeName title ↔ a ∈ title ∧ isSpace a = false := by
  rw [typeName, words, runs, runsFromMember (by simp)]
  simp

theorem bareWord (s : List Char) : ∀ a ∈ bareIdentifier s, isAsciiWord a = true := by
  intro a member
  obtain ⟨c, _, rfl⟩ := List.mem_map.mp (collapseMember (stripMember member))
  split
  · assumption
  · decide

theorem bareLead {s rest : List Char} {a : Char} (here : bareIdentifier s = a :: rest) :
    a ≠ '_' := stripLead here

theorem guardAround (name : List Char) : ∃ before after, (before = [] ∨ before = ['_']) ∧
    (after = [] ∨ after = ['_']) ∧ guardIdentifier name = before ++ name ++ after := by
  unfold guardIdentifier
  split
  · exact ⟨['_'], [], .inr rfl, .inl rfl, rfl⟩
  · rename_i c rest
    have led : ∃ before, (before = [] ∨ before = ['_']) ∧
        (if isAsciiDigit c then '_' :: c :: rest else c :: rest) = before ++ c :: rest := by
      split
      · exact ⟨['_'], .inr rfl, rfl⟩
      · exact ⟨[], .inl rfl, rfl⟩
    obtain ⟨before, lead, same⟩ := led
    dsimp only
    rw [same]
    split
    · exact ⟨before, ['_'], lead, .inr rfl, rfl⟩
    · exact ⟨before, [], lead, .inl rfl, (List.append_nil _).symm⟩

theorem guardMember {name : List Char} {a : Char} (member : a ∈ guardIdentifier name) :
    a ∈ name ∨ a = '_' := by
  obtain ⟨before, after, lead, tail, same⟩ := guardAround name
  have line {s : List Char} (own : s = [] ∨ s = ['_']) (there : a ∈ s) : a = '_' := by
    rcases own with rfl | rfl
    · cases there
    · exact List.mem_singleton.mp there
  rw [same, List.mem_append, List.mem_append] at member
  rcases member with (there | inside) | there
  · exact .inr (line lead there)
  · exact .inl inside
  · exact .inr (line tail there)

theorem guardWord {name : List Char} (word : ∀ a ∈ name, isAsciiWord a = true) :
    ∀ a ∈ guardIdentifier name, isAsciiWord a = true := by
  intro a member
  rcases guardMember member with inside | rfl
  · exact word a inside
  · decide

theorem identifierWord (s : List Char) : ∀ a ∈ identifier s, isAsciiWord a = true :=
  guardWord (bareWord s)

theorem guardLead {name : List Char} (lead : ∀ rest, name ≠ '_' :: rest) (rest : List Char) :
    guardIdentifier name ≠ '_' :: '_' :: rest := by
  unfold guardIdentifier
  split
  · simp
  · rename_i c more
    have first : c ≠ '_' := fun same => lead more (by rw [same])
    dsimp only
    split <;> split <;> simp [first]

theorem identifierLead (s rest : List Char) : identifier s ≠ '_' :: '_' :: rest :=
  guardLead (fun _ here => bareLead here rfl) rest

theorem namespaceKeyWord (name : List Char) : ∀ a ∈ namespaceKey name, isAsciiWord a = true :=
  identifierWord _

theorem namespaceKeyLead (name rest : List Char) : namespaceKey name ≠ '_' :: '_' :: rest :=
  identifierLead _ rest

end Naming
end ClientGen
