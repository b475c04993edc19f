import ClientGen.Text.Split
import Mathlib.Data.List.DropRight

/-! A text in which every foreign character has become a separator, runs of separators one and those
at both ends none, is the join of the runs of its own characters. Joined runs can be told apart. -/
namespace ClientGen.Text

variable {sep : Char} {p : Char → Bool}

theorem runsFromRun {run s : List Char} (own : ∀ a ∈ run, p a = true) :
    ∀ w ∈ runsFrom p run s, w ≠ [] ∧ ∀ a ∈ w, p a = true := by
  have reversed {run : List Char} (own : ∀ a ∈ run, p a = true) (some : run.isEmpty = false) :
      run.reverse ≠ [] ∧ ∀ a ∈ run.reverse, p a = true := by
    refine ⟨by simpa using some, fun a member => own a (List.mem_reverse.mp member)⟩
  induction s generalizing run with
  | nil =>
    cases here : run.isEmpty with
    | true => simp [runsFrom, here]
    | false =>
      simp only [runsFrom, here, Bool.false_eq_true, ↓reduceIte]
      exact List.forall_mem_singleton.mpr (reversed own here)
  | cons c rest ih =>
    rw [runsFrom]
    split
    · rename_i fits
      exact ih (List.forall_mem_cons.mpr ⟨fits, own⟩)
    · split
      · exact ih nofun
      · rename_i here
        exact List.forall_mem_cons.mpr ⟨reversed own (by simpa using here), ih nofun⟩

theorem runsRun (s : List Char) : ∀ w ∈ runs p s, w ≠ [] ∧ ∀ a ∈ w, p a = true :=
  runsFromRun nofun

theorem runsFromBegun {run s : List Char} (some : run ≠ []) :
    ∃ w ∈ runsFrom p run s, run.reverse <+: w := by
  induction s generalizing run with
  | nil => exact ⟨run.reverse, by simp [runsFrom, some], List.prefix_refl _⟩
  | cons c rest ih =>
    rw [runsFrom]
    split
    · obtain ⟨w, member, lead⟩ := @ih (c :: run) (List.cons_ne_nil c run)
      rw [List.reverse_cons] at lead
      exact ⟨w, member, (List.prefix_append _ _).trans lead⟩
    · exact ⟨run.reverse, by simp [some], List.prefix_refl _⟩

theorem runsFromWithin {part run rest : List Char} (own : ∀ a ∈ part, p a = true) :
    runsFrom p run (part ++ rest) = runsFrom p (part.reverse ++ run) rest := by
  induction part generalizing run with
  | nil => rfl
  | cons c part ih =>
    obtain ⟨fits, own⟩ := List.forall_mem_cons.mp own
    simp [runsFrom, fits, ih own]

theorem runsHold {part s : List Char} (some : part ≠ []) (own : ∀ a ∈ part, p a = true)
    (inside : part <:+: s) : ∃ w ∈ runs p s, part <:+: w := by
  obtain ⟨before, after, rfl⟩ := inside
  have from_ (run : List Char) : ∃ w ∈ runsFrom p run (before ++ part ++ after), part <:+: w := by
    induction before generalizing run with
    | nil =>
      rw [List.nil_append, runsFromWithin own]
      obtain ⟨w, member, lead⟩ := @runsFromBegun p (part.reverse ++ run) after (by simp [some])
      rw [List.reverse_append, List.reverse_reverse] at lead
      exact ⟨w, member, (List.suffix_append _ part).isInfix.trans lead.isInfix⟩
    | cons c before ih =>
      rw [List.cons_append, List.cons_append, runsFrom]
      split
      · exact ih (c :: run)
      · split
        · exact ih []
        · obtain ⟨w, member, within⟩ := ih []
          exact ⟨w, List.mem_cons_of_mem _ member, within⟩
  exact from_ []

theorem runsMapped (foreign : p sep = false) (s : List Char) :
    runs (· != sep) (s.map fun a => if p a then a else sep) = runs p s := by
  have from_ (run : List Char) :
      runsFrom (· != sep) run (s.map fun a => if p a then a else sep) = runsFrom p run s := by
    induction s generalizing run with
    | nil => rfl
    | cons c rest ih =>
      cases fits : p c with
      | true =>
        have other : (c != sep) = true := by
          rw [bne_iff_ne]
          rintro rfl
          rw [fits] at foreign
          contradiction
        simp [runsFrom, fits, other, ih]
      | false => simp [runsFrom, fits, ih]
  exact from_ []

theorem runsForeign (foreign : p sep = false) (s : List Char) : runs p (sep :: s) = runs p s := by
  simp [runs, runsFrom, foreign]

theorem runsEnded (foreign : p sep = false) (s : List Char) : runs p (s ++ [sep]) = runs p s := by
  have from_ (run : List Char) : runsFrom p run (s ++ [sep]) = runsFrom p run s := by
    induction s generalizing run with
    | nil => simp [runsFrom, foreign]
    | cons c rest ih => simp [runsFrom, ih]
  exact from_ []

theorem runsFlat (s : List Char) : (runs p s).flatten = s.filter p := by
  have from_ (run : List Char) : (runsFrom p run s).flatten = run.reverse ++ s.filter p := by
    induction s generalizing run with
    | nil => cases run <;> simp [runsFrom]
    | cons c rest ih =>
      cases fits : p c with
      | true => simp [runsFrom, fits, ih]
      | false => cases run <;> simp [runsFrom, fits, ih]
  exact from_ []

theorem joinEmpty {ws : List (List Char)} (some : ∀ w ∈ ws, w ≠ []) :
    joinWith [sep] ws = [] ↔ ws = [] := by
  cases ws with
  | nil => simp [joinWith]
  | cons w rest => cases rest <;> simp [joinWith, some w List.mem_cons_self]

theorem splitAtWhole {s : List Char} (absent : sep ∉ s) : splitAt sep s = [s] := by
  induction s with
  | nil => rfl
  | cons c rest ih =>
    simp only [List.mem_cons, not_or] at absent
    simp [splitAt, ih absent.2, Ne.symm absent.1]

theorem splitAtBefore {w s : List Char} (absent : sep ∉ w) :
    splitAt sep (w ++ sep :: s) = w :: splitAt sep s := by
  induction w with
  | nil =>
    cases cut : splitAt sep s with
    | nil => exact absurd cut (splitAtNonempty sep s)
    | cons first more => simp [splitAt, cut]
  | cons c rest ih =>
    simp only [List.mem_cons, not_or] at absent
    simp [splitAt, ih absent.2, Ne.symm absent.1]

theorem splitAtLead {w s first : List Char} {others : List (List Char)}
    (absent : sep ∉ w) (cut : splitAt sep s = first :: others) :
    splitAt sep (w ++ s) = (w ++ first) :: others := by
  induction w with
  | nil => exact cut
  | cons c w ih =>
    obtain ⟨other, absent⟩ := not_or.mp (mt List.mem_cons.mpr absent)
    simp [splitAt, ih absent, Ne.symm other]

theorem splitOnce {w v s t : List Char} (left : sep ∉ w) (right : sep ∉ v)
    (same : w ++ sep :: s = v ++ sep :: t) : w = v := by
  have cuts := congrArg (splitAt sep) same
  rw [splitAtBefore left, splitAtBefore right] at cuts
  exact (List.cons.inj cuts).1

theorem splitJoined {ws : List (List Char)} (some : ws ≠ []) (absent : ∀ w ∈ ws, sep ∉ w) :
    splitAt sep (joinWith [sep] ws) = ws := by
  induction ws with
  | nil => exact absurd rfl some
  | cons w rest ih =>
    obtain ⟨here, later⟩ := List.forall_mem_cons.mp absent
    cases rest with
    | nil => exact splitAtWhole here
    | cons next more =>
      rw [joinWith, List.append_assoc, List.singleton_append, splitAtBefore here,
        ih (List.cons_ne_nil _ _) later]
      exact List.cons_ne_nil _ _

theorem joinOnce {ws vs : List (List Char)} (words : ∀ w ∈ ws ++ vs, w ≠ [] ∧ sep ∉ w)
    (same : joinWith [sep] ws = joinWith [sep] vs) : ws = vs := by
  obtain ⟨left, right⟩ := List.forall_mem_append.mp words
  cases ws with
  | nil => exact ((joinEmpty fun v member => (right v member).1).mp same.symm).symm
  | cons w rest =>
    cases vs with
    | nil => exact (joinEmpty fun v member => (left v member).1).mp same
    | cons v more =>
      rw [← splitJoined (List.cons_ne_nil w rest) fun w member => (left w member).2, same,
        splitJoined (List.cons_ne_nil v more) fun v member => (right v member).2]

theorem runsJoined (foreign : p sep = false) {ws : List (List Char)}
    (words : ∀ w ∈ ws, w ≠ [] ∧ ∀ a ∈ w, p a = true) : runs p (joinWith [sep] ws) = ws := by
  induction ws with
  | nil => rfl
  | cons w rest ih =>
    obtain ⟨⟨some, own⟩, later⟩ := List.forall_mem_cons.mp words
    have begun (s : List Char) : runs p (w ++ s) = runsFrom p w.reverse s := by
      rw [runs, runsFromWithin own, List.append_nil]
    cases rest with
    | nil => simpa [runsFrom, some, joinWith] using begun []
    | cons next more =>
      have ended : runs p (w ++ sep :: joinWith [sep] (next :: more)) =
          w :: runs p (joinWith [sep] (next :: more)) := by
        rw [begun]
        simp [runs, runsFrom, foreign, some]
      rw [joinWith, List.append_assoc, List.singleton_append, ended, ih later]
      exact List.cons_ne_nil _ _

def stripEnd (c : Char) (s : List Char) : List Char := (s.reverse.dropWhile (· = c)).reverse

theorem stripSides (c : Char) (s : List Char) :
    stripChar c s = stripEnd c (s.dropWhile (· = c)) := rfl

theorem stripEndCons (c a : Char) (s : List Char) :
    stripEnd c (a :: s) = if stripEnd c s = [] ∧ a = c then [] else a :: stripEnd c s := by
  rw [stripEnd, List.reverse_cons, List.dropWhile_append]
  cases rest : s.reverse.dropWhile (· = c) with
  | nil => by_cases same : a = c <;> simp [stripEnd, rest, same, List.dropWhile]
  | cons b more => simp [stripEnd, rest]

theorem collapseOther {c a : Char} (other : a ≠ c) (s : List Char) :
    collapse c (a :: s) = a :: collapse c s := by
  rw [collapse]
  cases collapse c s <;> simp [other]

theorem collapseLead (c : Char) (s rest : List Char) : collapse c s ≠ c :: c :: rest := by
  induction s with
  | nil => simp [collapse]
  | cons a s ih =>
    rw [collapse]
    split
    · simp
    · rename_i b more collapsed
      split
      · rwa [collapsed] at ih
      · rename_i apart
        rintro ⟨⟩
        exact apart ⟨rfl, rfl⟩

theorem collapseSep (c : Char) (s : List Char) :
    collapse c (c :: s) = c :: (collapse c s).dropWhile (· = c) := by
  rw [collapse]
  cases collapsed : collapse c s with
  | nil => rfl
  | cons b more =>
    by_cases same : b = c
    · subst same
      cases more with
      | nil => simp
      | cons d more =>
        have other : d ≠ b := by
          rintro rfl
          exact collapseLead d s more collapsed
        simp [other]
    · simp [same]

theorem joinedRuns (sep : Char) (s : List Char) :
    joinWith [sep] (runsFrom (· != sep) [] s) = stripChar sep (collapse sep s) ∧
    ∀ run, run ≠ [] → joinWith [sep] (runsFrom (· != sep) run s) =
      run.reverse ++ stripEnd sep (collapse sep s) := by
  induction s with
  | nil =>
    refine ⟨rfl, fun run some => ?_⟩
    simp [runsFrom, some, joinWith, collapse, stripEnd]
  | cons a s ih =>
    obtain ⟨bare, begun⟩ := ih
    by_cases same : a = sep
    · subst same
      rw [collapseSep, stripSides, List.dropWhile_cons_of_pos (by simp)]
      refine ⟨?_, fun run some => ?_⟩
      · simp [runsFrom, bare, stripSides, List.dropWhile_idempotent]
      · have words := runsRun (p := (· != a)) s
        have ended : runsFrom (· != a) run (a :: s) = run.reverse :: runsFrom (· != a) [] s := by
          simp [runsFrom, some]
        rw [ended, stripEndCons, ← stripSides, ← bare]
        cases later : runsFrom (· != a) [] s with
        | nil => simp [joinWith]
        | cons w more =>
          rw [runs, later] at words
          have nonempty : joinWith [a] (w :: more) ≠ [] := fun none =>
            List.cons_ne_nil w more ((joinEmpty fun w member => (words w member).1).mp none)
          simp [joinWith, nonempty]
    · rw [collapseOther same, stripSides, List.dropWhile_cons_of_neg (by simp [same]), stripEndCons]
      simp only [same, and_false, ↓reduceIte]
      have fits : (a != sep) = true := bne_iff_ne.mpr same
      refine ⟨?_, fun run some => ?_⟩
      · simp [runsFrom, fits, begun [a]]
      · simp [runsFrom, fits, begun (a :: run)]

theorem stripCollapsed (sep : Char) (s : List Char) :
    stripChar sep (collapse sep s) = joinWith [sep] (runs (· != sep) s) :=
  (joinedRuns sep s).1.symm

theorem stripForeign (foreign : p sep = false) (s : List Char) :
    stripChar sep (collapse sep (s.map fun a => if p a then a else sep)) =
      joinWith [sep] (runs p s) := by
  rw [stripCollapsed, runsMapped foreign]

end ClientGen.Text
