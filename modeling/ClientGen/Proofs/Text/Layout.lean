import ClientGen.Text.Wrap
import ClientGen.Proofs.Text.Runs
import Mathlib.Data.List.Forall2

/-! What laying out does to a text. A line ends at the last blank that the width allows, and where
there is none the text goes on by one character. So wrapping makes line ends of some blanks and
leaves every other character in its place; a margin goes in front of the lines as they are. -/
namespace ClientGen.Text

def Breaks (room used : Nat) (s : List Char) (i : Nat) : Prop :=
  0 < used + i ∧ i ≤ room ∧ '\n' ∉ s.take i ∧ s[i]?.any isSpace = true

theorem breaksHere {room used : Nat} {c : Char} {rest : List Char} :
    Breaks room used (c :: rest) 0 ↔ 0 < used ∧ isSpace c = true := by
  simp [Breaks]

theorem breaksLater {room used i : Nat} {c : Char} {rest : List Char} :
    Breaks (room + 1) used (c :: rest) (i + 1) ↔ c ≠ '\n' ∧ Breaks room (used + 1) rest i := by
  simp only [Breaks, List.take_succ_cons, List.mem_cons, not_or, List.getElem?_cons_succ,
    Nat.add_le_add_iff_right]
  constructor
  · rintro ⟨_, bound, ⟨other, single⟩, blank⟩
    exact ⟨Ne.symm other, by omega, bound, single, blank⟩
  · rintro ⟨other, _, bound, single, blank⟩
    exact ⟨by omega, bound, ⟨Ne.symm other, single⟩, blank⟩

theorem breaksBehind {width : Nat} {line rest : List Char} {sep : Char} :
    Breaks width 0 (line ++ sep :: rest) line.length ↔
      line ≠ [] ∧ line.length ≤ width ∧ '\n' ∉ line ∧ isSpace sep = true := by
  simp [Breaks, List.length_pos_iff]

theorem breaksWithin {room used i : Nat} {line rest : List Char}
    (breaks : Breaks room used (line ++ '\n' :: rest) i) : i ≤ line.length := by
  by_contra beyond
  refine breaks.2.2.1 (List.mem_take_iff_getElem.mpr ⟨line.length, ?_, ?_⟩)
  · simp
    omega
  · simp

theorem breakAfterLast (room used : Nat) (best : Option Nat) (s : List Char) :
    (∃ i, breakAfter room used best s = some (used + i) ∧ Breaks room used s i ∧
      ∀ j, Breaks room used s j → j ≤ i) ∨
    breakAfter room used best s = best ∧ ∀ j, ¬Breaks room used s j := by
  induction s generalizing room used best with
  | nil => exact .inr ⟨by rw [breakAfter], fun j breaks => by simp [Breaks] at breaks⟩
  | cons c rest ih =>
    let better := if 0 < used ∧ isSpace c then some used else best
    have here (only : ∀ j, Breaks room used (c :: rest) j → j = 0) :
        (∃ i, better = some (used + i) ∧ Breaks room used (c :: rest) i ∧
          ∀ j, Breaks room used (c :: rest) j → j ≤ i) ∨
        better = best ∧ ∀ j, ¬Breaks room used (c :: rest) j := by
      by_cases blank : 0 < used ∧ isSpace c = true
      · exact .inl ⟨0, if_pos blank, breaksHere.mpr blank, fun j breaks => (only j breaks).le⟩
      · refine .inr ⟨if_neg blank, fun j breaks => blank ?_⟩
        obtain rfl := only j breaks
        exact breaksHere.mp breaks
    cases room with
    | zero => exact here fun j breaks => Nat.le_zero.mp breaks.2.1
    | succ room =>
      rw [breakAfter]
      by_cases ends : c = '\n'
      · rw [if_pos ends]
        refine here fun j breaks => ?_
        cases j with
        | zero => rfl
        | succ j => exact absurd ends (breaksLater.mp breaks).1
      · rw [if_neg ends]
        rcases ih room (used + 1) better with ⟨i, found, breaks, last⟩ | ⟨kept, nowhere⟩
        · refine .inl ⟨i + 1, by rw [found]; congr 1; omega, breaksLater.mpr ⟨ends, breaks⟩, ?_⟩
          rintro (_ | j) other
          · exact Nat.zero_le _
          · exact Nat.succ_le_succ (last j (breaksLater.mp other).2)
        · rw [kept]
          refine here fun j breaks => ?_
          cases j with
          | zero => rfl
          | succ j => exact absurd (breaksLater.mp breaks).2 (nowhere j)

theorem breakAfterIff {width k : Nat} {s : List Char} : breakAfter width 0 none s = some k ↔
    Breaks width 0 s k ∧ ∀ j, Breaks width 0 s j → j ≤ k := by
  rcases breakAfterLast width 0 none s with ⟨i, found, breaks, last⟩ | ⟨unfound, nowhere⟩
  · rw [found, Nat.zero_add, Option.some_inj]
    constructor
    · rintro rfl
      exact ⟨breaks, last⟩
    · rintro ⟨breaks', last'⟩
      exact Nat.le_antisymm (last' i breaks) (last k breaks')
  · rw [unfound]
    exact ⟨nofun, fun found => absurd found.1 (nowhere k)⟩

theorem breakAfterNone {width : Nat} {s : List Char} :
    breakAfter width 0 none s = none ↔ ∀ k, ¬Breaks width 0 s k := by
  rcases breakAfterLast width 0 none s with ⟨i, found, breaks, _⟩ | ⟨unfound, nowhere⟩
  · rw [found]
    exact ⟨nofun, fun nowhere => absurd breaks (nowhere i)⟩
  · exact ⟨fun _ => nowhere, fun _ => unfound⟩

inductive Wrapped (width : Nat) : List Char → List Char → Prop
  | whole {s : List Char} (fits : fitsLine width s = true) : Wrapped width s s
  | broken {line rest rest' : List Char} {sep : Char}
      (long : fitsLine width (line ++ sep :: rest) = false)
      (breaks : Breaks width 0 (line ++ sep :: rest) line.length)
      (last : ∀ k, Breaks width 0 (line ++ sep :: rest) k → k ≤ line.length)
      (later : Wrapped width rest rest') :
      Wrapped width (line ++ sep :: rest) (line ++ '\n' :: rest')
  | kept {c : Char} {rest rest' : List Char} (long : fitsLine width (c :: rest) = false)
      (nowhere : ∀ k, ¬Breaks width 0 (c :: rest) k) (later : Wrapped width rest rest') :
      Wrapped width (c :: rest) (c :: rest')

theorem breakParts {s : List Char} {width k : Nat} (breaks : Breaks width 0 s k) :
    ∃ line sep rest, s = line ++ sep :: rest ∧ line.length = k := by
  obtain ⟨_, _, _, blank⟩ := breaks
  obtain ⟨sep, there, _⟩ := Option.any_eq_true _ _ |>.mp blank
  obtain ⟨inside, own⟩ := List.getElem?_eq_some_iff.mp there
  refine ⟨s.take k, sep, s.drop (k + 1), ?_, List.length_take_of_le inside.le⟩
  rw [← own, ← List.drop_eq_getElem_cons inside, List.take_append_drop]

theorem wrapFromWhole {width : Nat} (fuel : Nat) {s : List Char} (fits : fitsLine width s = true) :
    wrapFrom width fuel s = s := by
  cases fuel with
  | zero => rw [wrapFrom]
  | succ fuel =>
    unfold wrapFrom
    exact if_pos fits

theorem wrapFromBroken {width : Nat} (fuel : Nat) {line rest : List Char} {sep : Char}
    (long : fitsLine width (line ++ sep :: rest) = false)
    (found : breakAfter width 0 none (line ++ sep :: rest) = some line.length) :
    wrapFrom width (fuel + 1) (line ++ sep :: rest) =
      line ++ '\n' :: wrapFrom width fuel rest := by
  conv_lhs => unfold wrapFrom
  rw [found, if_neg (by simp [long])]
  simp

theorem wrapFromKept {width : Nat} (fuel : Nat) {c : Char} {rest : List Char}
    (long : fitsLine width (c :: rest) = false)
    (unfound : breakAfter width 0 none (c :: rest) = none) :
    wrapFrom width (fuel + 1) (c :: rest) = c :: wrapFrom width fuel rest := by
  conv_lhs => unfold wrapFrom
  rw [unfound, if_neg (by simp [long])]

theorem wrapFromWrapped {width fuel : Nat} {s : List Char} (enough : s.length ≤ fuel) :
    Wrapped width s (wrapFrom width fuel s) := by
  induction fuel generalizing s with
  | zero =>
    obtain rfl := List.eq_nil_of_length_eq_zero (Nat.le_zero.mp enough)
    exact .whole rfl
  | succ fuel ih =>
    cases long : fitsLine width s with
    | true =>
      rw [wrapFromWhole _ long]
      exact .whole long
    | false =>
      cases found : breakAfter width 0 none s with
      | some k =>
        obtain ⟨breaks, last⟩ := breakAfterIff.mp found
        obtain ⟨line, sep, rest, rfl, rfl⟩ := breakParts breaks
        rw [wrapFromBroken fuel long found]
        exact .broken long breaks last (ih (by simp at enough; omega))
      | none =>
        cases s with
        | nil => cases long
        | cons c rest =>
          rw [wrapFromKept fuel long found]
          exact .kept long (breakAfterNone.mp found) (ih (Nat.le_of_succ_le_succ enough))

theorem wrappedRun {width : Nat} {s t : List Char} (wrapped : Wrapped width s t) {fuel : Nat}
    (enough : s.length ≤ fuel) : wrapFrom width fuel s = t := by
  induction wrapped generalizing fuel with
  | whole fits => exact wrapFromWhole fuel fits
  | broken long breaks last _ ih =>
    cases fuel with
    | zero => simp at enough
    | succ fuel =>
      rw [wrapFromBroken fuel long (breakAfterIff.mpr ⟨breaks, last⟩), ih]
      simp at enough
      omega
  | kept long nowhere _ ih =>
    cases fuel with
    | zero => simp at enough
    | succ fuel =>
      rw [wrapFromKept fuel long (breakAfterNone.mpr nowhere), ih (Nat.le_of_succ_le_succ enough)]

theorem wrapExact {width : Nat} {s t : List Char} : wrap width s = t ↔ Wrapped width s t := by
  constructor
  · rintro rfl
    exact wrapFromWrapped (Nat.le_refl _)
  · exact fun wrapped => wrappedRun wrapped (Nat.le_refl _)

def Relaid (c c' : Char) : Prop := c' = c ∨ isSpace c = true ∧ c' = '\n'

theorem relaidSame (s : List Char) : List.Forall₂ Relaid s s :=
  List.forall₂_same.mpr fun _ _ => .inl rfl

theorem Wrapped.relaid {width : Nat} {s t : List Char} (wrapped : Wrapped width s t) :
    List.Forall₂ Relaid s t := by
  induction wrapped with
  | whole => exact relaidSame _
  | broken _ breaks _ _ ih =>
    obtain ⟨_, _, _, blank⟩ := breaksBehind.mp breaks
    exact List.rel_append (relaidSame _) (.cons (.inr ⟨blank, rfl⟩) ih)
  | kept _ _ _ ih => exact .cons (.inl rfl) ih

theorem wrapRelaid (width : Nat) (s : List Char) : List.Forall₂ Relaid s (wrap width s) :=
  (wrapExact.mp rfl).relaid

theorem marginEvery (margin : List Char) (number : Nat) (ls : List (List Char)) :
    marginLines margin 0 number ls = ls.map (margin ++ ·) := by
  induction ls generalizing number with
  | nil => rfl
  | cons l rest ih => simp [marginLines, ih]

theorem withMarginLines (margin s : List Char) :
    withMargin margin 0 s = joinWith ['\n'] ((splitAt '\n' s).map (margin ++ ·)) := by
  rw [withMargin, marginEvery]

theorem withMarginCut {margin : List Char} (single : '\n' ∉ margin) (s : List Char) :
    splitAt '\n' (withMargin margin 0 s) = (splitAt '\n' s).map (margin ++ ·) := by
  rw [withMarginLines]
  refine splitJoined (by simp [splitAtNonempty]) fun line member => ?_
  obtain ⟨own, inside, rfl⟩ := List.mem_map.mp member
  simp [single, pieceWithoutSep inside]

theorem marginDropped (margin : List Char) (ls : List (List Char)) :
    (ls.map (margin ++ ·)).map (·.drop margin.length) = ls := by
  simp [Function.comp_def]

end ClientGen.Text
