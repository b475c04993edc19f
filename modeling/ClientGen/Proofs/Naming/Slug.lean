import ClientGen.Naming
import ClientGen.Proofs.Text.Runs

/-! Slugs. A slug is the maximal runs of ASCII letters and digits of an address, in order and with one
hyphen between them. So it has its hyphens inside and one at a time, and stays as it is when it is
made a slug again. -/
namespace ClientGen

namespace Text

inductive MaximalRuns (p : Char → Bool) : List Char → List (List Char) → Prop
  | none {gap} (foreign : ∀ a ∈ gap, p a = false) : MaximalRuns p gap []
  | run {gap w s ws} (foreign : ∀ a ∈ gap, p a = false) (letters : w ≠ [])
      (own : ∀ a ∈ w, p a = true) (ended : ∀ a, s.head? = some a → p a = false)
      (later : MaximalRuns p s ws) : MaximalRuns p (gap ++ w ++ s) (w :: ws)

section Runs

variable {sep : Char} {p : Char → Bool} {s : List Char} {ws : List (List Char)}

theorem runsSkip {gap : List Char} (foreign : ∀ a ∈ gap, p a = false) (s : List Char) :
    runs p (gap ++ s) = runs p s := by
  induction gap with
  | nil => rfl
  | cons a gap ih =>
    obtain ⟨here, later⟩ := List.forall_mem_cons.mp foreign
    rw [List.cons_append, runsForeign here, ih later]

theorem runsFromEnded {run : List Char} (letters : run ≠ [])
    (ended : ∀ a, s.head? = some a → p a = false) :
    runsFrom p run s = run.reverse :: runs p s := by
  cases s with
  | nil => simp [runs, runsFrom, letters]
  | cons c rest => simp [runs, runsFrom, letters, ended c rfl]

theorem maximalSound (cut : MaximalRuns p s ws) : ws = runs p s := by
  induction cut with
  | @none gap foreign =>
    have skipped := runsSkip foreign []
    rw [List.append_nil] at skipped
    exact skipped.symm
  | @run gap w s ws foreign letters own ended _ ih =>
    have begun : runs p (w ++ s) = runsFrom p w.reverse s := by
      rw [runs, runsFromWithin own, List.append_nil]
    rw [List.append_assoc, runsSkip foreign, begun, runsFromEnded (by simpa using letters) ended,
      List.reverse_reverse, ih]

theorem MaximalRuns.behind {c : Char} (foreign : p c = false) (cut : MaximalRuns p s ws) :
    MaximalRuns p (c :: s) ws := by
  cases cut with
  | none others => exact .none (List.forall_mem_cons.mpr ⟨foreign, others⟩)
  | @run gap w s ws others letters own ended later =>
    have gap' : ∀ a ∈ c :: gap, p a = false := List.forall_mem_cons.mpr ⟨foreign, others⟩
    exact .run gap' letters own ended later

theorem maximalFrom (s : List Char) : MaximalRuns p s (runsFrom p [] s) ∧
    ∀ run, run ≠ [] → (∀ a ∈ run, p a = true) →
      MaximalRuns p (run.reverse ++ s) (runsFrom p run s) := by
  have whole {run s : List Char} (letters : run ≠ []) (own : ∀ a ∈ run, p a = true)
      (ended : ∀ a, s.head? = some a → p a = false) {ws} (later : MaximalRuns p s ws) :
      MaximalRuns p ([] ++ run.reverse ++ s) (run.reverse :: ws) :=
    .run (fun _ => nofun) (by simpa using letters)
      (fun a member => own a (List.mem_reverse.mp member)) ended later
  induction s with
  | nil =>
    have nothing : MaximalRuns p [] [] := .none fun _ => nofun
    have ended : ∀ a, ([] : List Char).head? = some a → p a = false := by simp
    refine ⟨nothing, fun run letters own => ?_⟩
    rw [runsFromEnded letters ended]
    exact whole letters own ended nothing
  | cons c rest ih =>
    obtain ⟨bare, begun⟩ := ih
    cases fits : p c with
    | true =>
      have more (run : List Char) (own : ∀ a ∈ run, p a = true) :
          MaximalRuns p (run.reverse ++ c :: rest) (runsFrom p run (c :: rest)) := by
        have longer := begun (c :: run) (List.cons_ne_nil c run)
          (List.forall_mem_cons.mpr ⟨fits, own⟩)
        simpa [runsFrom, fits] using longer
      exact ⟨more [] fun _ => nofun, fun run _ own => more run own⟩
    | false =>
      have ended : ∀ a, (c :: rest).head? = some a → p a = false := by
        rintro a ⟨⟩
        exact fits
      have here : MaximalRuns p (c :: rest) (runs p (c :: rest)) := by
        rw [runsForeign fits]
        exact bare.behind fits
      refine ⟨here, fun run letters own => ?_⟩
      rw [runsFromEnded letters ended]
      exact whole letters own ended here

theorem maximalExact : MaximalRuns p s ws ↔ ws = runs p s := by
  refine ⟨maximalSound, ?_⟩
  rintro rfl
  exact (maximalFrom s).1

theorem splitAtSep (sep : Char) (t : List Char) : splitAt sep (sep :: t) = [] :: splitAt sep t :=
  splitAtBefore (w := []) nofun

theorem splitAtParts (sep : Char) (s t : List Char) :
    splitAt sep (s ++ sep :: t) = splitAt sep s ++ splitAt sep t := by
  induction s with
  | nil => exact splitAtSep sep t
  | cons c rest ih =>
    rw [List.cons_append, splitAt, ih, splitAt]
    cases cut : splitAt sep rest with
    | nil => exact absurd cut (splitAtNonempty sep rest)
    | cons piece more =>
      rw [List.cons_append]
      simp only
      split <;> rfl

theorem emptyPiece (bare : [sep, sep] <:+: s ∨ s.head? = some sep ∨ s.getLast? = some sep) :
    [] ∈ splitAt sep s := by
  have lead (t : List Char) : [] ∈ splitAt sep (sep :: t) := by
    rw [splitAtSep]
    exact List.mem_cons_self
  rcases bare with ⟨before, after, rfl⟩ | first | last
  · rw [List.append_assoc, List.cons_append, splitAtParts]
    exact List.mem_append_right _ (lead after)
  · obtain ⟨t, rfl⟩ := List.head?_eq_some_iff.mp first
    exact lead t
  · obtain ⟨t, rfl⟩ := List.getLast?_eq_some_iff.mp last
    rw [splitAtParts]
    exact List.mem_append_right _ (List.mem_singleton.mpr rfl)

theorem joinedSingly (words : ∀ w ∈ ws, w ≠ [] ∧ sep ∉ w) :
    ¬ [sep, sep] <:+: joinWith [sep] ws ∧ (joinWith [sep] ws).head? ≠ some sep ∧
      (joinWith [sep] ws).getLast? ≠ some sep := by
  by_cases none : ws = []
  · subst none
    simp [joinWith]
  · have pieces : [] ∉ splitAt sep (joinWith [sep] ws) := by
      rw [splitJoined none fun w member => (words w member).2]
      exact fun member => (words [] member).1 rfl
    exact ⟨fun double => pieces (emptyPiece (.inl double)),
      fun first => pieces (emptyPiece (.inr (.inl first))),
      fun last => pieces (emptyPiece (.inr (.inr last)))⟩

end Runs

end Text

namespace Naming
open Text

theorem slugWords (path method : List Char) :
    slug path method = joinWith ['-'] (runs isAsciiAlnum (path ++ '-' :: method)) := by
  have same (c : Char) :
      (if isAsciiAlnum c || c = '-' then c else '-') = if isAsciiAlnum c then c else '-' := by
    cases letter : isAsciiAlnum c with
    | true => rfl
    | false => by_cases hyphen : c = '-' <;> simp [hyphen]
  rw [slug, List.map_congr_left fun c _ => same c, stripForeign (by decide)]

theorem slugWord {address w : List Char} (member : w ∈ runs isAsciiAlnum address) :
    w ≠ [] ∧ '-' ∉ w := by
  obtain ⟨letters, own⟩ := runsRun address w member
  exact ⟨letters, fun there => absurd (own '-' there) (by decide)⟩

theorem slugAgain (path method : List Char) : slug (slug path method) [] = slug path method := by
  have hyphen : isAsciiAlnum '-' = false := by decide
  rw [slugWords (slug path method) [], runsEnded hyphen, slugWords path method,
    runsJoined hyphen (runsRun (path ++ '-' :: method))]

theorem slugJoinsRuns (path method : List Char) :
    (∀ s, slug path method = s ↔
      ∃ ws, MaximalRuns isAsciiAlnum (path ++ '-' :: method) ws ∧ s = joinWith ['-'] ws) ∧
    (∀ c ∈ slug path method, isAsciiAlnum c = true ∨ c = '-') ∧
    ¬ ['-', '-'] <:+: slug path method ∧ (slug path method).head? ≠ some '-' ∧
    (slug path method).getLast? ≠ some '-' ∧ slug (slug path method) [] = slug path method := by
  have again := slugAgain path method
  have words : ∀ w ∈ runs isAsciiAlnum (path ++ '-' :: method), w ≠ [] ∧ '-' ∉ w :=
    fun w member => slugWord member
  obtain ⟨double, first, last⟩ := joinedSingly words
  rw [← slugWords] at double first last
  refine ⟨fun s => ?_, fun c member => ?_, double, first, last, again⟩
  · simp only [maximalExact, exists_eq_left, ← slugWords]
    exact eq_comm
  · by_cases hyphen : c = '-'
    · exact .inr hyphen
    · rw [slugWords] at member
      obtain ⟨w, there, inside⟩ := (joinWithMember hyphen _).mp member
      exact .inl ((runsRun _ w there).2 c inside)

example : slug "/v1//devices/\x7bid\x7d.".toList "-get".toList = "v1-devices-id-get".toList := by
  decide

end Naming
end ClientGen
