import ClientGen.Proofs.Files.View

/-! Where following a path ends. A spot knows the folders that its names were found in; with those,
what a path leads to stands at the location that its text spells, in a folder. -/
namespace ClientGen

inductive Spot.Rests (f : Files) (o : Origin) : List String → List Folder → Prop
  | root : Spot.Rests f o [] []
  | name {step names folder folders}
      (found : Folder.below (some (.folder (f.root o))) names.reverse = some (.folder folder))
      (outer : Spot.Rests f o names folders) : Spot.Rests f o (step :: names) (folder :: folders)

structure Spot.Valid (f : Files) (s : Spot) : Prop where
  entry : s.entry = Folder.below (some (.folder (f.root s.origin))) s.names.reverse
  rests : Spot.Rests f s.origin s.names s.folders

namespace Folder

theorem belowSnoc (e : Option Entry) (way : List String) (name : String) :
    below e (way ++ [name]) = match below e way with
      | some (.folder f) => f.lookup name
      | _ => none := by
  induction way generalizing e with
  | nil => cases e with
    | none => rfl
    | some e => cases e <;> rfl
  | cons first rest ih =>
    cases e with
    | none => rfl
    | some e =>
      cases e with
      | file c => rfl
      | folder f => exact ih (f.lookup first)

end Folder

namespace Files

theorem entryOfBelow (f : Files) (l : Location) :
    f.entryAt? l = Folder.below (some (.folder (f.root l.origin))) l.names :=
  Folder.atBelow _ _

theorem spotAtValid (f : Files) (o : Origin) : (f.spotAt o).Valid f := ⟨rfl, .root⟩

theorem aboveValid {f : Files} {s : Spot} (valid : s.Valid f) :
    (f.above s).Valid f ∧ (f.above s).location = s.location.up := by
  obtain ⟨o, names, folders, entry⟩ := s
  obtain ⟨_, rests⟩ := valid
  simp only at rests
  cases rests with
  | root => exact ⟨spotAtValid f o.up, rfl⟩
  | name found outer =>
    refine ⟨⟨found.symm, outer⟩, ?_⟩
    simp [above, Spot.location, Location.up]

theorem enteredValid {f : Files} {s : Spot} {entries : Folder} {step : String} (valid : s.Valid f)
    (entry : s.entry = some (.folder entries)) (ordinary : step ≠ "..") :
    let t : Spot := ⟨s.origin, step :: s.names, entries :: s.folders, entries.lookup step⟩
    t.Valid f ∧ t.location = s.location.below step := by
  have here := valid.entry.symm.trans entry
  refine ⟨⟨?_, .name here valid.rests⟩, ?_⟩
  · simp only [List.reverse_cons, Folder.belowSnoc, here]
  · simp [Spot.location, Location.below, ordinary]

theorem followValid {f : Files} {s t : Spot} {steps : List String} (valid : s.Valid f)
    (ok : f.follow s steps = .ok t) :
    t.Valid f ∧ t.location = steps.foldl Location.below s.location := by
  induction steps generalizing s with
  | nil =>
    cases ok
    exact ⟨valid, rfl⟩
  | cons step rest ih =>
    simp only [follow] at ok
    cases entry : s.entry with
    | none => simp [entry] at ok
    | some e =>
      cases e with
      | file c => simp [entry] at ok
      | folder entries =>
        simp only [entry] at ok
        split at ok
        · contradiction
        · split at ok
          · rename_i up
            subst up
            have outer := aboveValid valid
            have last := ih outer.1 ok
            refine ⟨last.1, ?_⟩
            rw [last.2, outer.2]
            simp [Location.below]
          · rename_i ordinary
            have inner := enteredValid valid entry ordinary
            have last := ih inner.1 ok
            exact ⟨last.1, last.2.trans (congrArg (rest.foldl Location.below) inner.2)⟩

theorem locateValid {f : Files} {p : Path} {s : Spot} (ok : f.locate p = .ok s) :
    s.Valid f ∧ s.location = written p := by
  simp only [locate] at ok
  split at ok
  · contradiction
  · exact followValid (spotAtValid f (originOf p)) ok

theorem validEntry {f : Files} {s : Spot} (valid : s.Valid f) :
    f.entryAt? s.location = s.entry := by
  rw [entryOfBelow, Spot.location, valid.entry]

theorem locateEntry {f : Files} {p : Path} {s : Spot} (ok : f.locate p = .ok s) :
    f.entryAt? s.location = s.entry :=
  validEntry (locateValid ok).1

theorem locateHolder {f : Files} {p : Path} {s : Spot} (ok : f.locate p = .ok s)
    (closed : ∀ g, s.entry ≠ some (.folder g)) : f.kindAt? s.location.holder = some none := by
  have valid := (locateValid ok).1
  obtain ⟨o, names, folders, entry⟩ := s
  obtain ⟨here, rests⟩ := valid
  simp only at here rests closed
  cases rests with
  | root => exact absurd here (closed _)
  | name found outer =>
    rw [kindOfEntry, entryOfBelow]
    simp [Spot.location, Location.holder, found, Entry.content?]

theorem followAlike {f g : Files} (folders : ∀ l, f.kindAt? l = some none → g.kindAt? l = some none)
    {s t s' : Spot} {steps : List String} (left : s.Valid f) (right : t.Valid g)
    (same : t.location = s.location) (ok : f.follow s steps = .ok s') :
    ∃ t', g.follow t steps = .ok t' := by
  induction steps generalizing s t with
  | nil => exact ⟨t, rfl⟩
  | cons step rest ih =>
    simp only [follow] at ok ⊢
    cases entry : s.entry with
    | none => simp [entry] at ok
    | some e =>
      cases e with
      | file c => simp [entry] at ok
      | folder entries =>
        have kind : g.kindAt? t.location = some none := by
          rw [same]
          apply folders
          rw [kindOfEntry, validEntry left, entry]
          rfl
        rw [kindOfEntry, validEntry right] at kind
        cases entry' : t.entry with
        | none => simp [entry'] at kind
        | some e' =>
          cases e' with
          | file c => simp [entry', Entry.content?] at kind
          | folder entries' =>
            simp only [entry] at ok
            split at ok
            · contradiction
            · rename_i short
              simp only [short, ↓reduceIte]
              split at ok
              · rename_i up
                have outer := aboveValid left
                have outer' := aboveValid right
                rw [if_pos up]
                exact ih outer.1 outer'.1 (by rw [outer.2, outer'.2, same]) ok
              · rename_i ordinary
                have inner := enteredValid left entry ordinary
                have inner' := enteredValid right entry' ordinary
                rw [if_neg ordinary]
                exact ih inner.1 inner'.1 (by rw [inner.2, inner'.2, same]) ok

theorem locateAlike {f g : Files} (folders : ∀ l, f.kindAt? l = some none → g.kindAt? l = some none)
    {p : Path} {s : Spot} (ok : f.locate p = .ok s) : ∃ t, g.locate p = .ok t := by
  simp only [locate] at ok ⊢
  split at ok
  · contradiction
  · rename_i short
    rw [if_neg short]
    exact followAlike folders (spotAtValid f _) (spotAtValid g _) rfl ok

theorem contentIff {f : Files} {p : Path} {c : FileContent} : f.content p = .ok c ↔
    (∃ s, f.locate p = .ok s) ∧ f.contentAt? (written p) = some c := by
  simp only [content, bind, Except.bind]
  cases found : f.locate p with
  | error fault => simp
  | ok s =>
    have there : f.contentAt? (written p) = s.entry.bind Entry.content? := by
      rw [contentOfKind, kindOfEntry, ← (locateValid found).2, locateEntry found]
      cases s.entry <;> rfl
    rw [there]
    obtain ⟨o, names, folders, entry⟩ := s
    cases entry with
    | none => simp
    | some e => cases e <;> simp [Entry.content?]

end Files
end ClientGen
