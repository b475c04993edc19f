import ClientGen.Text.Range

/-! Whitespace, and the ways a text is cut: into words, at every occurrence of one character,
or into the maximal runs of a class of characters. -/
namespace ClientGen.Text

def isSpace (c : Char) : Bool :=
  inRanges [(0x9, 0xd), (0x1c, 0x20), (0x85, 0x85), (0xa0, 0xa0), (0x1680, 0x1680),
    (0x2000, 0x200a), (0x2028, 0x2029), (0x202f, 0x202f), (0x205f, 0x205f), (0x3000, 0x3000)]
    c.toNat

def runsFrom (p : Char → Bool) (run : List Char) : List Char → List (List Char)
  | [] => if run.isEmpty then [] else [run.reverse]
  | c :: rest =>
    if p c then runsFrom p (c :: run) rest
    else if run.isEmpty then runsFrom p [] rest
    else run.reverse :: runsFrom p [] rest

def runs (p : Char → Bool) (s : List Char) : List (List Char) := runsFrom p [] s

def words (s : List Char) : List (List Char) := runs (fun c => !isSpace c) s

def splitAt (sep : Char) : List Char → List (List Char)
  | [] => [[]]
  | c :: rest =>
    match splitAt sep rest with
    | [] => []
    | piece :: more => if c = sep then [] :: piece :: more else (c :: piece) :: more

def joinWith (sep : List Char) : List (List Char) → List Char
  | [] => []
  | [piece] => piece
  | piece :: rest => piece ++ sep ++ joinWith sep rest

theorem splitAtNonempty (sep : Char) (s : List Char) : splitAt sep s ≠ [] := by
  induction s with
  | nil => simp [splitAt]
  | cons c rest ih =>
    simp only [splitAt]
    split
    · contradiction
    · split <;> simp

theorem joinSplitAt (sep : Char) (s : List Char) : joinWith [sep] (splitAt sep s) = s := by
  induction s with
  | nil => rfl
  | cons c rest ih =>
    cases h : splitAt sep rest with
    | nil => exact absurd h (splitAtNonempty sep rest)
    | cons piece more =>
      rw [h] at ih
      by_cases same : c = sep
      · subst same
        simp [splitAt, h, joinWith, ih]
      · cases more <;> simp_all [splitAt, joinWith]

theorem joinWithMember {c sep : Char} (apart : c ≠ sep) (pieces : List (List Char)) :
    c ∈ joinWith [sep] pieces ↔ ∃ piece ∈ pieces, c ∈ piece := by
  induction pieces with
  | nil => simp [joinWith]
  | cons piece rest ih =>
    cases rest with
    | nil => simp [joinWith]
    | cons next more => simp [joinWith, ih, apart]

theorem splitAtMember {c sep : Char} (apart : c ≠ sep) (s : List Char) :
    (∃ piece ∈ splitAt sep s, c ∈ piece) ↔ c ∈ s := by
  rw [← joinWithMember apart, joinSplitAt]

theorem pieceWithoutSep {sep : Char} {s piece : List Char} (h : piece ∈ splitAt sep s) :
    sep ∉ piece := by
  induction s generalizing piece with
  | nil => simp_all [splitAt]
  | cons c rest ih =>
    simp only [splitAt] at h
    split at h
    · simp at h
    next first more cut =>
      split at h
      · rcases List.mem_cons.mp h with rfl | inside
        · simp
        · exact ih (cut ▸ inside)
      next other =>
        rcases List.mem_cons.mp h with rfl | inside
        · have := ih (cut ▸ List.mem_cons_self)
          grind
        · exact ih (cut ▸ List.mem_cons_of_mem _ inside)

def stripChar (c : Char) (s : List Char) : List Char :=
  ((s.dropWhile (· = c)).reverse.dropWhile (· = c)).reverse

def collapse (c : Char) : List Char → List Char
  | [] => []
  | a :: rest =>
    match collapse c rest with
    | [] => [a]
    | b :: more => if a = c ∧ b = c then b :: more else a :: b :: more

def unifyLineEnds : List Char → List Char
  | [] => []
  | '\r' :: '\n' :: rest => '\n' :: unifyLineEnds rest
  | c :: rest => (if c = '\r' then '\n' else c) :: unifyLineEnds rest

end ClientGen.Text
