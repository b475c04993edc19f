import ClientGen.Proofs.Text.Layout

/-! Where the comments of a source file end. A blank takes no part in the mark that ends a comment,
so a text put together with blanks holds a mark exactly if a part of it does, however it is laid
out. A comment without a mark of its own ends with its line. -/
namespace ClientGen.Text

def blockEnd? : List Char → Option (List Char)
  | [] => none
  | '*' :: '/' :: rest => some rest
  | _ :: rest => blockEnd? rest

def quotedEnd? : List Char → Option (List Char)
  | [] => none
  | '"' :: '"' :: '"' :: rest => some rest
  | '\\' :: _ :: rest => quotedEnd? rest
  | _ :: rest => quotedEnd? rest

def Blankwise (f : List Char → Option (List Char)) : Prop :=
  f [] = none ∧ ∀ a sep b, isSpace sep = true →
    f (a ++ sep :: b) = (f a).elim (f b) fun rest => some (rest ++ sep :: b)

theorem blockBlankwise : Blankwise blockEnd? := by
  refine ⟨rfl, fun a sep b blank => ?_⟩
  have star : sep ≠ '*' := by
    rintro rfl
    exact absurd blank (by decide)
  have slash : sep ≠ '/' := by
    rintro rfl
    exact absurd blank (by decide)
  fun_induction blockEnd? a with
  | case1 => simp [blockEnd?, star]
  | case2 rest => simp [blockEnd?]
  | case3 c rest other ih =>
    rw [← ih, List.cons_append]
    cases rest <;> simp_all [blockEnd?]

theorem quotedStep {c : Char} {rest : List Char}
    (three : ∀ r, c = '"' → rest ≠ '"' :: '"' :: r) (escaped : c = '\\' → rest = []) :
    quotedEnd? (c :: rest) = quotedEnd? rest := by
  rw [quotedEnd?.eq_def]
  split
  · contradiction
  · rename_i r same
    cases same
    exact absurd rfl (three r rfl)
  · rename_i d r _ same
    cases same
    cases escaped rfl
  · rename_i same
    cases same
    rfl

theorem quotedBlankwise : Blankwise quotedEnd? := by
  refine ⟨rfl, fun a sep b blank => ?_⟩
  have quote : sep ≠ '"' := by
    rintro rfl
    exact absurd blank (by decide)
  have backslash : sep ≠ '\\' := by
    rintro rfl
    exact absurd blank (by decide)
  have skipped : quotedEnd? (sep :: b) = quotedEnd? b :=
    quotedStep (fun _ same => absurd same quote) fun same => absurd same backslash
  fun_induction quotedEnd? a with
  | case1 => exact skipped
  | case2 rest => simp [quotedEnd?]
  | case3 c rest ih => simpa [quotedEnd?] using ih
  | case4 c rest three escaped ih =>
    rw [← ih, List.cons_append]
    cases rest with
    | nil =>
      by_cases last : c = '\\'
      · subst last
        exact skipped.symm
      · exact quotedStep (by simp [quote]) fun same => absurd same last
    | cons d rest =>
      refine quotedStep ?_ fun same => absurd rfl (escaped d rest same)
      cases rest with
      | nil => simp [quote]
      | cons e rest =>
        rintro r rfl same
        cases same
        exact three rest rfl rfl

section Open

variable {f : List Char → Option (List Char)} (blankwise : Blankwise f)
include blankwise

theorem openBoth {a b : List Char} {sep : Char} (blank : isSpace sep = true) :
    f (a ++ sep :: b) = none ↔ f a = none ∧ f b = none := by
  rw [blankwise.2 a sep b blank]
  cases f a <;> simp

theorem openRelaid {s s' : List Char} (relaid : List.Forall₂ Relaid s s') :
    f s = none ↔ f s' = none := by
  suffices behind : ∀ a, f (a ++ s) = none ↔ f (a ++ s') = none from behind []
  induction relaid with
  | nil => exact fun _ => Iff.rfl
  | @cons c c' s s' here _ ih =>
    intro a
    rcases here with rfl | ⟨blank, rfl⟩
    · simpa using ih (a ++ [c'])
    · rw [openBoth blankwise blank, openBoth blankwise (by decide)]
      exact and_congr_right fun _ => ih []

theorem openJoined (ls : List (List Char)) :
    f (joinWith ['\n'] ls) = none ↔ ∀ l ∈ ls, f l = none := by
  induction ls with
  | nil => simp [joinWith, blankwise.1]
  | cons l rest ih =>
    cases rest with
    | nil => simp [joinWith]
    | cons l' rest =>
      rw [joinWith, List.append_assoc, List.singleton_append, openBoth blankwise (by decide), ih]
      · simp
      · simp

theorem openLaidOut {margin : List Char} (width : Nat) (free : f margin = none) (s : List Char) :
    f (withMargin (margin ++ [' ']) 0 (wrap width s)) = none ↔ f s = none := by
  have line (l : List Char) : f (margin ++ [' '] ++ l) = none ↔ f l = none := by
    rw [List.append_assoc, List.singleton_append, openBoth blankwise (by decide)]
    exact and_iff_right free
  rw [openRelaid blankwise (wrapRelaid width s)]
  conv => rhs; rw [← joinSplitAt '\n' (wrap width s)]
  rw [withMarginLines, openJoined blankwise, openJoined blankwise, List.forall_mem_map]
  exact forall₂_congr fun l _ => line l

end Open

def linesFrom (line : List Char) : List Char → List (List Char)
  | [] => []
  | '\r' :: '\n' :: rest => line.reverse :: linesFrom [] rest
  | c :: rest =>
    if c = '\r' ∨ c = '\n' then line.reverse :: linesFrom [] rest else linesFrom (c :: line) rest

def physicalLines (s : List Char) : List (List Char) := linesFrom [] s

def isIndentation (c : Char) : Bool := c == ' ' || c == '\t' || c == '\x0c'

def isMarked (line : List Char) : Bool := (line.dropWhile isIndentation).head? == some '#'

def returnsMarked : List Char → Bool
  | [] => true
  | c :: rest => (c != '\r' || rest.isEmpty || isMarked rest) && returnsMarked rest

theorem markedBefore (a b : List Char) : isMarked (a ++ '\r' :: b) = isMarked a := by
  induction a with
  | nil => rfl
  | cons c rest ih =>
    unfold isMarked at ih ⊢
    by_cases blank : isIndentation c = true
    · simpa [List.dropWhile_cons_of_pos blank] using ih
    · simp [List.dropWhile_cons_of_neg blank]

theorem lineMarked {l : List Char} (single : '\n' ∉ l) (line b : List Char) :
    (∀ p ∈ linesFrom line (l ++ '\n' :: b), isMarked p = true) ↔
      isMarked (line.reverse ++ l) = true ∧ returnsMarked l = true ∧
        ∀ p ∈ linesFrom [] b, isMarked p = true := by
  induction l generalizing line with
  | nil => simp [linesFrom, returnsMarked]
  | cons c rest ih =>
    have single' : '\n' ∉ rest := fun inside => single (List.mem_cons_of_mem c inside)
    by_cases return_ : c = '\r'
    · subst return_
      rw [markedBefore]
      cases rest with
      | nil => simp [linesFrom, returnsMarked]
      | cons d rest =>
        have other : d ≠ '\n' := by
          rintro rfl
          simp at single'
        have cut : linesFrom line ('\r' :: d :: rest ++ '\n' :: b) =
            line.reverse :: linesFrom [] (d :: rest ++ '\n' :: b) := by
          simp [linesFrom, other]
        have later := ih single' []
        rw [cut, List.forall_mem_cons, later]
        simp [returnsMarked, and_assoc]
    · have on : linesFrom line (c :: rest ++ '\n' :: b) =
          linesFrom (c :: line) (rest ++ '\n' :: b) := by
        have other : c ≠ '\n' := by
          rintro rfl
          simp at single
        simp [linesFrom, return_, other]
      rw [on, ih single']
      simp [returnsMarked, return_]

theorem joinedMarked (ls : List (List Char)) (some : ls ≠ []) (single : ∀ l ∈ ls, '\n' ∉ l) :
    (∀ p ∈ physicalLines (joinWith ['\n'] ls ++ ['\n']), isMarked p = true) ↔
      ∀ l ∈ ls, isMarked l = true ∧ returnsMarked l = true := by
  unfold physicalLines
  induction ls with
  | nil => contradiction
  | cons l rest ih =>
    have here := lineMarked (single l List.mem_cons_self) []
    cases rest with
    | nil =>
      rw [joinWith, here]
      simp [linesFrom]
    | cons l' rest =>
      have later := ih (List.cons_ne_nil _ _) fun l member => single l (List.mem_cons_of_mem _ member)
      rw [joinWith, List.append_assoc, List.append_assoc, List.singleton_append, here, later]
      · simp [and_assoc]
      · simp

theorem returnsBehind {margin : List Char} (plain : '\r' ∉ margin) (l : List Char) :
    returnsMarked (margin ++ l) = returnsMarked l := by
  induction margin with
  | nil => rfl
  | cons c rest ih =>
    obtain ⟨other, plain⟩ := not_or.mp (List.mem_cons.not.mp plain)
    simp [returnsMarked, ih plain, Ne.symm other]

theorem laidOutMarked {margin : List Char} (marks : ∀ s, isMarked (margin ++ s) = true)
    (plain : '\r' ∉ margin ∧ '\n' ∉ margin) (s : List Char) :
    (∀ p ∈ physicalLines (withMargin margin 0 s ++ ['\n']), isMarked p = true) ↔
      ∀ l ∈ splitAt '\n' s, returnsMarked l = true := by
  rw [withMarginLines, joinedMarked]
  · simp [marks, returnsBehind plain.1]
  · simp [splitAtNonempty]
  · intro l member
    obtain ⟨own, inside, rfl⟩ := List.mem_map.mp member
    simp [plain.2, pieceWithoutSep inside]

end ClientGen.Text
