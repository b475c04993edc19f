import ClientGen.Document

/-! The walk over a library looks at every place that can be seen from its origin. What is looked
at denotes something, and so do the children of what it denotes. Of every reference that is met the
walk keeps what it denotes, and of nothing else. -/
namespace ClientGen

namespace Reference

-- What is found at a place, once the references that it leads through have been followed.
abbrev Library.Denotes (library : Library) (p : Place) (t : Target) : Prop :=
  denoted library library.steps [] p = .ok t

theorem stepsPositive (library : Library) : 0 < library.steps := by
  have texts (ts : List String) (n : Nat) :
      n ≤ ts.foldl (fun n t => n + t.length + 3) n := by
    induction ts generalizing n with
    | nil => exact Nat.le_refl n
    | cons t rest ih => exact Nat.le_trans (by omega) (ih (n + t.length + 3))
  have volumes (vs : Library) (n : Nat) : n ≤ vs.foldl
      (fun n v => (Reference.texts v.content).foldl (fun n t => n + t.length + 3) n) n := by
    induction vs generalizing n with
    | nil => exact Nat.le_refl n
    | cons v rest ih => exact Nat.le_trans (texts _ n) (ih _)
  exact volumes library 1

theorem Library.plainDenotes {library : Library} {p : Place}
    (plain : (library.valueAt p).reference? = none) : library.Denotes p (.place p) := by
  obtain ⟨k, steps⟩ : ∃ k, library.steps = k + 1 := ⟨library.steps - 1, by
    have := stepsPositive library
    omega⟩
  unfold Library.Denotes
  rw [steps, denoted, plain]
  simp

end Reference

namespace Document
open Reference

variable {library : Library}

structure Entered (library : Library) (w : Walk) (pending : List Place) (p : Place) (t : Target) :
    Prop where
  denotes : library.Denotes p t
  reference : (library.valueAt p).reference? ≠ none → (p, t) ∈ w.references
  below : ∀ q, t = .place q → ∀ i < childCount (library.valueAt q),
    q.child i ∈ w.visited ∨ q.child i ∈ pending

structure Progress (library : Library) (w : Walk) (pending : List Place) : Prop where
  entered : ∀ p ∈ w.visited, ∃ t, Entered library w pending p t
  told : ∀ r ∈ w.references, r.1 ∈ w.visited ∧ (library.valueAt r.1).reference? ≠ none ∧
    library.Denotes r.1 r.2

theorem Entered.later {w w' : Walk} {pending pending' : List Place} {p : Place} {t : Target}
    (entered : Entered library w pending p t) (visited : w.visited ⊆ w'.visited)
    (references : w.references ⊆ w'.references)
    (moved : ∀ c ∈ pending, c ∈ w'.visited ∨ c ∈ pending') : Entered library w' pending' p t := by
  refine ⟨entered.denotes, fun met => references (entered.reference met), fun q same i child => ?_⟩
  rcases entered.below q same i child with done | due
  · exact .inl (visited done)
  · exact moved _ due

theorem childBelow {q : Place} {i : Nat} (child : i < childCount (library.valueAt q)) :
    q.child i ∈ (List.range (childCount (library.valueAt q))).map q.child :=
  List.mem_map_of_mem (List.mem_range.mpr child)

section Step

variable {w : Walk} {here : Place} {rest : List Place} (progress : Progress library w (here :: rest))
include progress

theorem progressAgain (met : here ∈ w.visited) : Progress library w rest := by
  refine ⟨fun p member => ?_, progress.told⟩
  obtain ⟨t, entered⟩ := progress.entered p member
  refine ⟨t, entered.later (List.Subset.refl _) (List.Subset.refl _) fun c due => ?_⟩
  rcases List.mem_cons.mp due with rfl | later
  · exact .inl met
  · exact .inr later

theorem progressPlain (plain : (library.valueAt here).reference? = none) :
    Progress library { w with visited := here :: w.visited }
      ((List.range (childCount (library.valueAt here))).map here.child ++ rest) := by
  refine ⟨fun p member => ?_, fun r member =>
    ⟨List.mem_cons_of_mem _ (progress.told r member).1, (progress.told r member).2⟩⟩
  rcases List.mem_cons.mp member with rfl | before
  · refine ⟨.place p, library.plainDenotes plain, fun met => absurd plain met, ?_⟩
    rintro q ⟨⟩ i child
    exact .inr (List.mem_append_left _ (childBelow child))
  · obtain ⟨t, entered⟩ := progress.entered p before
    refine ⟨t, entered.later (List.subset_cons_self _ _) (List.Subset.refl _) fun c due => ?_⟩
    rcases List.mem_cons.mp due with rfl | later
    · exact .inl List.mem_cons_self
    · exact .inr (List.mem_append_right _ later)

theorem progressReference (t : Target) (below : List Place)
    (met : (library.valueAt here).reference? ≠ none) (denotes : library.Denotes here t)
    (children : ∀ q, t = .place q → ∀ i < childCount (library.valueAt q), q.child i ∈ below) :
    Progress library ⟨here :: w.visited, (here, t) :: w.references⟩ (below ++ rest) := by
  refine ⟨fun p member => ?_, List.forall_mem_cons.mpr ⟨⟨List.mem_cons_self, met, denotes⟩,
    fun r member => ⟨List.mem_cons_of_mem _ (progress.told r member).1, (progress.told r member).2⟩⟩⟩
  rcases List.mem_cons.mp member with rfl | before
  · exact ⟨t, denotes, fun _ => List.mem_cons_self,
      fun q same i child => .inr (List.mem_append_left _ (children q same i child))⟩
  · obtain ⟨u, entered⟩ := progress.entered p before
    refine ⟨u, entered.later (List.subset_cons_self _ _) (List.subset_cons_self _ _) fun c due => ?_⟩
    rcases List.mem_cons.mp due with rfl | later
    · exact .inl List.mem_cons_self
    · exact .inr (List.mem_append_right _ later)

end Step

theorem walkProgress {fuel : Nat} {pending : List Place} {w w' : Walk}
    (done : walk library fuel pending w = .ok w') (progress : Progress library w pending) :
    Progress library w' [] ∧ w.visited ⊆ w'.visited ∧ pending ⊆ w'.visited := by
  induction fuel generalizing pending w with
  | zero => simp [walk] at done
  | succ fuel ih =>
    cases pending with
    | nil =>
      cases done
      exact ⟨progress, List.Subset.refl _, List.nil_subset _⟩
    | cons here rest =>
      rw [walk] at done
      split at done
      · rename_i met
        have met := List.contains_iff_mem.mp met
        obtain ⟨last, more, all⟩ := ih done (progressAgain progress met)
        exact ⟨last, more, List.cons_subset.mpr ⟨more met, all⟩⟩
      · dsimp only at done
        split at done
        · rename_i plain
          obtain ⟨last, more, all⟩ := ih done (progressPlain progress plain)
          exact ⟨last, List.Subset.trans (List.subset_cons_self _ _) more, List.cons_subset.mpr
            ⟨more List.mem_cons_self, List.Subset.trans (List.subset_append_right _ _) all⟩⟩
        · rename_i text reference
          obtain ⟨t, denotes, done⟩ := Fault.bindOk done
          have met : (library.valueAt here).reference? ≠ none := by simp [reference]
          cases t with
          | place q =>
            have next := progressReference progress (.place q)
              ((List.range (childCount (library.valueAt q))).map q.child) met denotes
              (by rintro _ ⟨⟩ i child; exact childBelow child)
            obtain ⟨last, more, all⟩ := ih done next
            exact ⟨last, List.Subset.trans (List.subset_cons_self _ _) more, List.cons_subset.mpr
              ⟨more List.mem_cons_self, List.Subset.trans (List.subset_append_right _ _) all⟩⟩
          | character c =>
            have next := progressReference progress (.character c) [] met denotes nofun
            obtain ⟨last, more, all⟩ := ih done next
            exact ⟨last, List.Subset.trans (List.subset_cons_self _ _) more, List.cons_subset.mpr
              ⟨more List.mem_cons_self, all⟩⟩

-- A walk that has ended: every place that was met denotes something, whose children were met too.
structure Walked (library : Library) (w : Walk) : Prop where
  origin : .origin ∈ w.visited
  entered : ∀ p ∈ w.visited, ∃ t, Entered library w [] p t
  told : ∀ r ∈ w.references, r.1 ∈ w.visited ∧ (library.valueAt r.1).reference? ≠ none ∧
    library.Denotes r.1 r.2

theorem walkEnds {fuel : Nat} {w : Walk} (done : walk library fuel [.origin] ⟨[], []⟩ = .ok w) :
    Walked library w := by
  obtain ⟨last, _, all⟩ := walkProgress done ⟨by simp, by simp⟩
  exact ⟨all List.mem_cons_self, last.entered, last.told⟩

theorem Walked.below {w : Walk} (walked : Walked library w) {p q : Place}
    (met : p ∈ w.visited) (denotes : library.Denotes p (.place q)) {i : Nat}
    (child : i < childCount (library.valueAt q)) : q.child i ∈ w.visited := by
  obtain ⟨t, entered⟩ := walked.entered p met
  cases entered.denotes.symm.trans denotes
  exact (entered.below q rfl i child).resolve_right List.not_mem_nil

theorem Walked.lookup {w : Walk} (walked : Walked library w) {p : Place} {t : Target}
    (met : p ∈ w.visited) (denotes : library.Denotes p t) : w.references.lookup p =
      if (library.valueAt p).reference? = none then none else some t := by
  have own {u : Target} (found : w.references.lookup p = some u) :
      (library.valueAt p).reference? ≠ none ∧ u = t := by
    obtain ⟨before, after, whole, _⟩ := List.lookup_eq_some_iff.mp found
    obtain ⟨_, reference, told⟩ := walked.told (p, u) (whole ▸ by simp)
    exact ⟨reference, Except.ok.inj (told.symm.trans denotes)⟩
  split
  · rename_i plain
    cases found : w.references.lookup p with
    | none => rfl
    | some u => exact absurd plain (own found).1
  · rename_i reference
    obtain ⟨u, entered⟩ := walked.entered p met
    cases found : w.references.lookup p with
    | none =>
      have absent := List.lookup_eq_none_iff.mp found (p, u) (entered.reference reference)
      simp at absent
    | some u => rw [(own found).2]

end Document
end ClientGen
