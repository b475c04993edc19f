import ClientGen.Proofs.Text.Layout
import ClientGen.Proofs.Text.Runs

/-! How long the lines of a wrapped text are. A wrapped text is wrapped already, and so is one whose
lines are within the width. With words that fit, a line is too long only where it begins with a
blank and the word behind it fills the width. -/
namespace ClientGen.Text

theorem relaidBlank {c c' : Char} (relaid : Relaid c c') : isSpace c' = isSpace c := by
  rcases relaid with rfl | ⟨blank, rfl⟩
  · rfl
  · rw [blank]
    rfl

theorem breaksRelaid {room used i : Nat} {s s' : List Char} (relaid : List.Forall₂ Relaid s s')
    (breaks : Breaks room used s' i) : Breaks room used s i := by
  induction relaid generalizing room used i with
  | nil => exact breaks
  | @cons c c' rest rest' here _ ih =>
    cases i with
    | zero => rwa [breaksHere, ← relaidBlank here, ← breaksHere]
    | succ i =>
      cases room with
      | zero => exact absurd breaks.2.1 (by simp)
      | succ room =>
        obtain ⟨other, later⟩ := breaksLater.mp breaks
        refine breaksLater.mpr ⟨?_, ih later⟩
        rintro rfl
        rcases here with rfl | ⟨_, rfl⟩ <;> exact other rfl

theorem fitsIff {width : Nat} {s : List Char} :
    fitsLine width s = true ↔ s.length ≤ width ∧ '\n' ∉ s := by
  simp [fitsLine]

theorem endStays {s s' : List Char} (relaid : List.Forall₂ Relaid s s') (inside : '\n' ∈ s) :
    '\n' ∈ s' := by
  induction relaid with
  | nil => exact inside
  | cons here _ ih =>
    rcases List.mem_cons.mp inside with rfl | later
    · rcases here with rfl | ⟨_, rfl⟩ <;> exact List.mem_cons_self
    · exact List.mem_cons_of_mem _ (ih later)

theorem fitsRelaid {width : Nat} {s s' : List Char} (relaid : List.Forall₂ Relaid s s')
    (fits : fitsLine width s' = true) : fitsLine width s = true := by
  obtain ⟨bound, single⟩ := fitsIff.mp fits
  exact fitsIff.mpr ⟨relaid.length_eq ▸ bound, fun inside => single (endStays relaid inside)⟩

theorem wrappedAgain {width : Nat} {s t : List Char} (wrapped : Wrapped width s t) :
    Wrapped width t t := by
  induction wrapped with
  | whole fits => exact .whole fits
  | @broken line rest rest' sep long breaks last later ih =>
    obtain ⟨some, bound, single, _⟩ := breaksBehind.mp breaks
    exact .broken (by simp [fitsLine]) (breaksBehind.mpr ⟨some, bound, single, rfl⟩)
      (fun k => breaksWithin) ih
  | @kept c rest rest' long nowhere later ih =>
    have relaid : List.Forall₂ Relaid (c :: rest) (c :: rest') :=
      .cons (.inl rfl) later.relaid
    refine .kept ?_ (fun k breaks => nowhere k (breaksRelaid relaid breaks)) ih
    exact Bool.eq_false_iff.mpr fun fits => Bool.eq_false_iff.mp long (fitsRelaid relaid fits)

theorem wrapAgain (width : Nat) (s : List Char) : wrap width (wrap width s) = wrap width s :=
  wrapExact.mpr (wrappedAgain (wrapExact.mp rfl))

theorem wrappedShort {width : Nat} {s : List Char}
    (short : ∀ line ∈ splitAt '\n' s, line.length ≤ width) : Wrapped width s s := by
  induction size : s.length using Nat.strong_induction_on generalizing s with
  | _ size ih =>
    subst size
    by_cases ends : '\n' ∈ s
    · obtain ⟨line, rest, rfl, single⟩ := List.eq_append_cons_of_mem ends
      rw [splitAtBefore single] at short
      obtain ⟨here, later⟩ := List.forall_mem_cons.mp short
      have long : fitsLine width (line ++ '\n' :: rest) = false := by simp [fitsLine]
      have rest' := ih rest.length (by simp; omega) later rfl
      cases line with
      | nil =>
        refine .kept long (fun k breaks => ?_) rest'
        have within : k ≤ [].length := @breaksWithin width 0 k [] rest breaks
        exact absurd breaks.1 (by simpa using within)
      | cons c line =>
        exact .broken long (breaksBehind.mpr ⟨List.cons_ne_nil c line, here, single, rfl⟩)
          (fun k => breaksWithin) rest'
    · rw [splitAtWhole ends] at short
      exact .whole (fitsIff.mpr ⟨short s List.mem_cons_self, ends⟩)

theorem wrapShort {width : Nat} {s : List Char}
    (short : ∀ line ∈ splitAt '\n' s, line.length ≤ width) : wrap width s = s :=
  wrapExact.mpr (wrappedShort short)

-- A blank begins the line, and one word fills the width behind it.
def Overhangs (width : Nat) (line : List Char) : Prop :=
  ∃ blank word, line = blank :: word ∧ isSpace blank = true ∧ word.length = width ∧
    ∀ c ∈ word, isSpace c = false

def Begins (s line : List Char) : Prop :=
  line <+: s ∨ ∃ gap, isSpace gap = true ∧ gap :: line <:+: s

def Fitting (width : Nat) (s : List Char) : Prop :=
  ∀ run, run <:+: s → (∀ c ∈ run, isSpace c = false) → run.length ≤ width

theorem Fitting.inside {width : Nat} {s part : List Char} (fitting : Fitting width s)
    (inside : part <:+: s) : Fitting width part :=
  fun run within => fitting run (within.trans inside)

theorem unbrokenWord {width : Nat} {c : Char} {rest : List Char}
    (long : fitsLine width (c :: rest) = false) (nowhere : ∀ k, ¬Breaks width 0 (c :: rest) k)
    (fitting : Fitting width (c :: rest)) (other : c ≠ '\n') :
    isSpace c = true ∧ ∃ word after, rest = word ++ after ∧ word.length = width ∧
      ∀ x ∈ word, isSpace x = false := by
  obtain ⟨word, after, parts, plain, ended⟩ : ∃ word after, rest = word ++ after ∧
      (∀ x ∈ word, isSpace x = false) ∧ ∀ x ∈ after.head?, isSpace x = true := by
    refine ⟨rest.takeWhile (! isSpace ·), rest.dropWhile (! isSpace ·),
      (List.takeWhile_append_dropWhile).symm, ?_, ?_⟩
    · exact fun x inside => by simpa using List.mem_takeWhile_imp inside
    · have first := List.head?_dropWhile_not (! isSpace ·) rest
      intro x here
      rw [Option.mem_def.mp here] at first
      simpa using first
  subst parts
  have single : '\n' ∉ c :: word := by
    simp only [List.mem_cons, not_or]
    exact ⟨Ne.symm other, fun inside => absurd (plain _ inside) (by decide)⟩
  have bound : word.length ≤ width :=
    fitting word (List.infix_cons (List.prefix_append word after).isInfix) plain
  have full : width ≤ word.length := by
    by_contra short
    cases after with
    | nil =>
      refine Bool.eq_false_iff.mp long (fitsIff.mpr ⟨?_, by simpa using single⟩)
      simp
      omega
    | cons x after =>
      refine nowhere (c :: word).length ?_
      rw [← List.cons_append, breaksBehind]
      exact ⟨List.cons_ne_nil c word, by simp; omega, single, ended x rfl⟩
  refine ⟨?_, word, after, rfl, Nat.le_antisymm bound full, plain⟩
  by_contra letter
  have run := fitting (c :: word) (List.prefix_append (c :: word) after).isInfix
    (List.forall_mem_cons.mpr ⟨by simpa using letter, plain⟩)
  simp at run
  omega

theorem relaidWord {word after t : List Char} (plain : ∀ x ∈ word, isSpace x = false)
    (relaid : List.Forall₂ Relaid (word ++ after) t) : ∃ after', t = word ++ after' := by
  induction word generalizing t with
  | nil => exact ⟨t, rfl⟩
  | cons c word ih =>
    obtain ⟨letter, plain⟩ := List.forall_mem_cons.mp plain
    cases relaid with
    | cons here later =>
      obtain ⟨after', rfl⟩ := ih plain later
      rcases here with rfl | ⟨blank, _⟩
      · exact ⟨after', rfl⟩
      · rw [letter] at blank
        contradiction

theorem fullWord {width : Nat} (positive : 0 < width) {word after first : List Char}
    {others : List (List Char)} (full : word.length = width)
    (plain : ∀ x ∈ word, isSpace x = false)
    (cut : splitAt '\n' (word ++ after) = first :: others)
    (here : first.length ≤ width ∨ Overhangs width first) : first = word := by
  obtain ⟨a, more, cut'⟩ := List.exists_cons_of_ne_nil (splitAtNonempty '\n' after)
  have single : '\n' ∉ word := fun inside => absurd (plain _ inside) (by decide)
  obtain ⟨rfl, rfl⟩ := List.cons.inj (cut.symm.trans (splitAtLead single cut'))
  rcases here with bound | ⟨blank, tail, own, space, _⟩
  · rw [List.length_append, full] at bound
    rw [List.eq_nil_of_length_eq_zero (show a.length = 0 by omega), List.append_nil]
  · cases word with
    | nil => exact absurd full (Nat.ne_of_lt positive)
    | cons c word =>
      obtain ⟨rfl, _⟩ := List.cons.inj own
      rw [plain c List.mem_cons_self] at space
      contradiction

abbrev Within (width : Nat) (s line : List Char) : Prop :=
  line.length ≤ width ∨ Overhangs width line ∧ ∃ gap, isSpace gap = true ∧ gap :: line <:+: s

theorem Within.behind {width : Nat} {line s whole : List Char} (within : Within width s line)
    (end_ : s <:+ whole) : Within width whole line :=
  within.imp_right fun ⟨overhangs, gap, blank, inside⟩ =>
    ⟨overhangs, gap, blank, inside.trans end_.isInfix⟩

theorem withinGap {width : Nat} {gap : Char} {s first : List Char} {others : List (List Char)}
    (blank : isSpace gap = true) (here : first.length ≤ width ∨ Overhangs width first ∧ first <+: s)
    (behind : ∀ line ∈ others, Within width s line) :
    ∀ line ∈ first :: others, Within width (gap :: s) line := by
  have lead : Within width (gap :: s) first := here.imp_right fun ⟨overhangs, lead⟩ =>
    ⟨overhangs, gap, blank, (List.cons_prefix_cons.mpr ⟨rfl, lead⟩).isInfix⟩
  exact List.forall_mem_cons.mpr
    ⟨lead, fun line member => (behind line member).behind (List.suffix_cons gap s)⟩

theorem wrappedLines {width : Nat} (positive : 0 < width) {s t : List Char}
    (wrapped : Wrapped width s t) (fitting : Fitting width s) :
    ∃ first others, splitAt '\n' t = first :: others ∧
      (first.length ≤ width ∨ Overhangs width first ∧ first <+: s) ∧
      ∀ line ∈ others, Within width s line := by
  induction wrapped with
  | @whole s fits =>
    obtain ⟨bound, single⟩ := fitsIff.mp fits
    exact ⟨s, [], splitAtWhole single, .inl bound, nofun⟩
  | @broken line rest rest' sep long breaks last later ih =>
    obtain ⟨_, bound, single, blank⟩ := breaksBehind.mp breaks
    obtain ⟨first, others, cut, here, behind⟩ :=
      ih (fitting.inside ((List.suffix_cons sep rest).trans (List.suffix_append line _)).isInfix)
    refine ⟨line, first :: others, by rw [splitAtBefore single, cut], .inl bound, ?_⟩
    exact fun l member => (withinGap blank here behind l member).behind (List.suffix_append line _)
  | @kept c rest rest' long nowhere later ih =>
    obtain ⟨first, others, cut, here, behind⟩ :=
      ih (fitting.inside (List.suffix_cons c rest).isInfix)
    by_cases ends : c = '\n'
    · subst ends
      refine ⟨[], first :: others, ?_, .inl (Nat.zero_le _), withinGap (by decide) here behind⟩
      rw [← cut]
      exact @splitAtBefore '\n' [] rest' nofun
    · obtain ⟨blank, word, after, rfl, full, plain⟩ := unbrokenWord long nowhere fitting ends
      obtain ⟨after', rfl⟩ := relaidWord plain later.relaid
      obtain rfl := fullWord positive full plain cut (here.imp_right And.left)
      have lead : c :: first <+: c :: (first ++ after) :=
        List.cons_prefix_cons.mpr ⟨rfl, List.prefix_append first after⟩
      refine ⟨c :: first, others, ?_, .inr ⟨⟨c, first, rfl, blank, full, plain⟩, lead⟩, ?_⟩
      · exact @splitAtLead '\n' [c] _ first others (by simpa using Ne.symm ends) cut
      · exact fun l member => (behind l member).behind (List.suffix_cons c _)

theorem fittingWords {width : Nat} {s : List Char} (fit : ∀ word ∈ words s, word.length ≤ width) :
    Fitting width s := by
  intro run inside plain
  by_cases some : run = []
  · simp [some]
  · obtain ⟨w, member, within⟩ :=
      @runsHold (! isSpace ·) run s some (fun c here => by simp [plain c here]) inside
    exact within.length_le.trans (fit w member)

theorem wrapLines {width : Nat} (positive : 0 < width) {s : List Char}
    (fit : ∀ word ∈ words s, word.length ≤ width) : ∀ line ∈ splitAt '\n' (wrap width s),
    line.length ≤ width ∨ Overhangs width line ∧ Begins s line := by
  obtain ⟨first, others, cut, here, behind⟩ :=
    wrappedLines positive (wrapExact.mp rfl) (fittingWords fit)
  rw [cut]
  refine List.forall_mem_cons.mpr ⟨?_, fun line member => ?_⟩
  · exact here.imp_right fun ⟨overhangs, lead⟩ => ⟨overhangs, .inl lead⟩
  · exact (behind line member).imp_right fun ⟨overhangs, gap⟩ => ⟨overhangs, .inr gap⟩

end ClientGen.Text
