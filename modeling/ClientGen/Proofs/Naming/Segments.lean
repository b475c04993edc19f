import ClientGen.Naming.Placeholder
import ClientGen.Proofs.Text.Runs

/-! The segments of a path: names in braces, and the characters between them. A path has one way to
be cut into segments, and it is settled: no characters of it are another name in braces. -/
namespace ClientGen.Naming
open Text

inductive Segment
  | letter (c : Char)
  | named (name : List Char)
  deriving DecidableEq

def Segment.written : Segment → List Char
  | .letter c => [c]
  | .named name => '\x7b' :: name ++ ['\x7d']

def written (ss : List Segment) : List Char := ss.flatMap Segment.written

def isInner (c : Char) : Bool := c != '\x7b' && c != '\x7d' && c != '/'

structure Held (name : List Char) : Prop where
  some : name ≠ []
  inner : ∀ c ∈ name, isInner c = true

def closing : List Segment → Option (List Char × List Segment)
  | .letter c :: rest =>
    if c = '\x7d' then some ([], rest)
    else if isInner c then (closing rest).map fun (name, later) => (c :: name, later)
    else none
  | _ => none

def opened (c : Char) (ss : List Segment) : List Segment :=
  match closing ss with
  | some (d :: name, later) => if c = '\x7b' then .named (d :: name) :: later else .letter c :: ss
  | _ => .letter c :: ss

def cut (s : List Char) : List Segment := s.foldr opened []

def names : List Segment → List (List Char)
  | [] => []
  | .letter _ :: rest => names rest
  | .named name :: rest => name :: names rest

def holes (s : List Char) : List (List Char) := names (cut s)

inductive Settled : List Segment → Prop
  | nil : Settled []
  | letter {c : Char} {ss : List Segment} (later : Settled ss)
      (kept : opened c ss = .letter c :: ss) : Settled (.letter c :: ss)
  | named {name : List Char} {ss : List Segment} (held : Held name) (later : Settled ss) :
      Settled (.named name :: ss)

variable {c : Char} {s t name : List Char} {ss later : List Segment}

theorem heldAbsent (held : Held name) : '\x7b' ∉ name ∧ '\x7d' ∉ name :=
  ⟨fun there => absurd (held.inner _ there) (by decide),
    fun there => absurd (held.inner _ there) (by decide)⟩

theorem writtenLetters (name : List Char) : written (name.map .letter) = name := by
  simp [written, List.flatMap_map, Segment.written]

theorem writtenNamed (name : List Char) (ss : List Segment) :
    written (.named name :: ss) = '\x7b' :: name ++ '\x7d' :: written ss := by
  simp [written, Segment.written]

theorem writtenAppend (ss ts : List Segment) : written (ss ++ ts) = written ss ++ written ts :=
  List.flatMap_append

theorem closingParts (closed : closing ss = some (name, later)) :
    ss = name.map .letter ++ .letter '\x7d' :: later ∧ ∀ c ∈ name, isInner c = true := by
  induction ss generalizing name with
  | nil => cases closed
  | cons first rest ih =>
    cases first with
    | named _ => cases closed
    | letter c =>
      rw [closing] at closed
      split at closed
      · rename_i brace
        cases closed
        exact ⟨by rw [brace]; rfl, nofun⟩
      · split at closed
        · rename_i inner
          obtain ⟨⟨name', later'⟩, closed', same⟩ := Option.map_eq_some_iff.mp closed
          cases same
          obtain ⟨rfl, own⟩ := ih closed'
          exact ⟨rfl, List.forall_mem_cons.mpr ⟨inner, own⟩⟩
        · cases closed

theorem closingName (inner : ∀ c ∈ name, isInner c = true) :
    closing (name.map .letter ++ .letter '\x7d' :: later) = some (name, later) := by
  induction name with
  | nil => simp [closing]
  | cons c rest ih =>
    obtain ⟨here, others⟩ := List.forall_mem_cons.mp inner
    have other : c ≠ '\x7d' := by
      rintro rfl
      exact absurd here (by decide)
    simp [closing, other, here, ih others]

theorem openedLetter (other : c ≠ '\x7b') (ss : List Segment) : opened c ss = .letter c :: ss := by
  unfold opened
  split
  · rw [if_neg other]
  · rfl

theorem openedNamed (held : Held name) :
    opened '\x7b' (name.map .letter ++ .letter '\x7d' :: later) = .named name :: later := by
  rw [opened, closingName held.inner]
  cases name with
  | nil => exact absurd rfl held.some
  | cons d rest => simp

theorem openedCases (c : Char) (ss : List Segment) : opened c ss = .letter c :: ss ∨
    c = '\x7b' ∧ ∃ name later, Held name ∧ ss = name.map .letter ++ .letter '\x7d' :: later ∧
      opened c ss = .named name :: later := by
  unfold opened
  split
  · rename_i d name later closed
    obtain ⟨same, inner⟩ := closingParts closed
    split
    · rename_i brace
      exact .inr ⟨brace, _, _, ⟨List.cons_ne_nil _ _, inner⟩, same, rfl⟩
    · exact .inl rfl
  · exact .inl rfl

theorem openedKept : opened '\x7b' ss = .letter '\x7b' :: ss ↔
    ∀ name later, Held name → closing ss ≠ some (name, later) := by
  constructor
  · intro kept name later held closed
    rw [(closingParts closed).1, openedNamed held] at kept
    simp at kept
  · intro free
    rcases openedCases '\x7b' ss with kept | ⟨_, name, later, held, same, _⟩
    · exact kept
    · exact absurd (same ▸ closingName held.inner) (free name later held)

theorem cutCons (c : Char) (s : List Char) : cut (c :: s) = opened c (cut s) := rfl

theorem cutPlain (absent : '\x7b' ∉ s) (t : List Char) :
    cut (s ++ t) = s.map .letter ++ cut t := by
  induction s with
  | nil => rfl
  | cons c rest ih =>
    simp only [List.mem_cons, not_or] at absent
    rw [List.cons_append, cutCons, ih absent.2, openedLetter (Ne.symm absent.1)]
    rfl

theorem cutNamed (held : Held name) (s : List Char) :
    cut ('\x7b' :: name ++ '\x7d' :: s) = .named name :: cut s := by
  have brace := cutPlain (s := ['\x7d']) (by decide) s
  rw [List.cons_append, cutCons, cutPlain (heldAbsent held).1]
  exact brace ▸ openedNamed held

theorem cutWritten (s : List Char) : written (cut s) = s := by
  induction s with
  | nil => rfl
  | cons c rest ih =>
    rw [cutCons]
    rcases openedCases c (cut rest) with kept | ⟨rfl, name, later, _, same, named⟩
    · rw [kept]
      exact congrArg (c :: ·) ih
    · rw [same, writtenAppend, writtenLetters] at ih
      rw [named, ← ih]
      simp [written, Segment.written]

theorem settledBehind (settled : Settled (name.map .letter ++ later)) : Settled later := by
  induction name with
  | nil => exact settled
  | cons c rest ih =>
    cases settled with
    | letter settled _ => exact ih settled

theorem cutSettled (s : List Char) : Settled (cut s) := by
  induction s with
  | nil => exact .nil
  | cons c rest ih =>
    rw [cutCons]
    rcases openedCases c (cut rest) with kept | ⟨_, name, later, held, same, named⟩
    · exact kept ▸ .letter ih kept
    · rw [same] at ih
      rw [named]
      cases settledBehind ih with
      | letter settled _ => exact .named held settled

theorem writtenCut (settled : Settled ss) : cut (written ss) = ss := by
  induction settled with
  | nil => rfl
  | letter _ kept ih => exact (congrArg (opened _) ih).trans kept
  | named held _ ih => rw [writtenNamed, cutNamed held, ih]

theorem namesBehind (name : List Char) (ss : List Segment) :
    names (name.map .letter ++ ss) = names ss := by
  induction name with
  | nil => rfl
  | cons c rest ih => exact ih

theorem holesCons (c : Char) (s : List Char) : holes (c :: s) = holes s ∨
    ∃ name rest, c = '\x7b' ∧ Held name ∧ s = name ++ '\x7d' :: rest ∧
      holes (c :: s) = name :: holes s := by
  rw [holes, holes, cutCons]
  rcases openedCases c (cut s) with kept | ⟨brace, name, later, held, same, named⟩
  · exact .inl (by rw [kept]; rfl)
  · refine .inr ⟨name, written later, brace, held, ?_, ?_⟩
    · have whole := cutWritten s
      rw [same, writtenAppend, writtenLetters] at whole
      exact whole.symm
    · rw [named, same, namesBehind]
      rfl

theorem holesIff : name ∈ holes s ↔
    Held name ∧ ∃ before rest, s = before ++ '\x7b' :: name ++ '\x7d' :: rest := by
  constructor
  · intro hole
    induction s with
    | nil => cases hole
    | cons c s ih =>
      rcases holesCons c s with same | ⟨name', rest, rfl, held, rfl, same⟩
      · obtain ⟨held, before, rest, whole⟩ := ih (same ▸ hole)
        exact ⟨held, c :: before, rest, congrArg (c :: ·) whole⟩
      · rcases List.mem_cons.mp (same ▸ hole) with rfl | later
        · exact ⟨held, [], rest, rfl⟩
        · obtain ⟨held, before, rest', whole⟩ := ih later
          exact ⟨held, '\x7b' :: before, rest', congrArg ('\x7b' :: ·) whole⟩
  · rintro ⟨held, before, rest, rfl⟩
    induction before with
    | nil =>
      rw [List.nil_append, holes, cutNamed held]
      exact List.mem_cons_self
    | cons c before ih =>
      rcases holesCons c (before ++ '\x7b' :: name ++ '\x7d' :: rest) with
        same | ⟨_, _, _, _, _, same⟩
      · exact same ▸ ih
      · exact same ▸ List.mem_cons_of_mem _ ih

example : holes "/a\x7b\x7bb\x7d/\x7b\x7d/\x7bc/d\x7d".toList = ["b".toList] := by decide +kernel

end ClientGen.Naming
