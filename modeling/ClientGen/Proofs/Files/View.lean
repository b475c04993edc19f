import ClientGen.Files.Tree

/-! The tree of files as a table of kinds: a location holds nothing, a folder, or a file with its
content. Putting a file or an empty folder in place changes the table at one location, and so does
taking a file out. Neither statement speaks of how folders are stored. -/
namespace ClientGen

def Entry.content? : Entry → Option FileContent
  | .file c => some c
  | .folder _ => none

namespace Folder

def below (entries : Option Entry) : List String → Option Entry
  | [] => entries
  | name :: rest =>
    match entries with
    | some (.folder f) => below (f.lookup name) rest
    | _ => none

theorem belowNone (way : List String) : below none way = none := by
  cases way <;> rfl

theorem atBelow (f : Folder) (way : List String) : f.at? way = below (some (.folder f)) way := by
  induction way generalizing f with
  | nil => rfl
  | cons name rest ih =>
    cases rest with
    | nil => rfl
    | cons next rest =>
      simp only [at?, below]
      cases found : f.lookup name with
      | none => rfl
      | some e =>
        cases e with
        | file c => rfl
        | folder inside => exact ih inside

theorem lookupErase (name other : String) (f : Folder) :
    (f.erase name).lookup other = if other = name then none else f.lookup other := by
  induction f with
  | nil => simp [erase]
  | cons first rest ih =>
    obtain ⟨n, e⟩ := first
    by_cases same : n = name
    · subst same
      have step : erase n ((n, e) :: rest) = erase n rest := by simp [erase]
      rw [step, ih]
      by_cases h : other = n
      · simp [h]
      · simp [h, List.lookup_cons, beq_eq_false_iff_ne.mpr h]
    · have step : erase name ((n, e) :: rest) = (n, e) :: erase name rest := by simp [erase, same]
      rw [step]
      by_cases h : other = n
      · subst h
        simp [same]
      · simp only [List.lookup_cons, beq_eq_false_iff_ne.mpr h, ih]

def kindAt? (f : Folder) (way : List String) : Option (Option FileContent) :=
  (f.at? way).map Entry.content?

def kindBelow (e : Option Entry) (way : List String) : Option (Option FileContent) :=
  (below e way).map Entry.content?

theorem kindAtBelow (f : Folder) (way : List String) :
    f.kindAt? way = kindBelow (some (.folder f)) way := by
  rw [kindAt?, atBelow, kindBelow]

theorem kindAtCons (f : Folder) (name : String) (rest : List String) :
    f.kindAt? (name :: rest) = kindBelow (f.lookup name) rest := by
  rw [kindAtBelow]
  rfl

theorem kindAtNil (f : Folder) : f.kindAt? [] = some none := rfl

theorem folderOfKind {e : Option Entry} {way : List String} (kind : kindBelow e way = some none) :
    ∃ f, e = some (.folder f) := by
  cases e with
  | none => simp [kindBelow, belowNone] at kind
  | some e =>
    cases e with
    | folder f => exact ⟨f, rfl⟩
    | file c => cases way <;> simp [kindBelow, below, Entry.content?] at kind

theorem kindBelowBare {e : Entry} (bare : ∀ f, e = .folder f → f = []) (name : String)
    (rest : List String) : kindBelow (some e) (name :: rest) = none := by
  cases e with
  | file c => rfl
  | folder f =>
    have empty := bare f rfl
    subst empty
    simp [kindBelow, below, belowNone]

theorem kindBelowNotFolder {e : Option Entry} (closed : kindBelow e [] ≠ some none) (name : String)
    (rest : List String) : kindBelow e (name :: rest) = none := by
  cases e with
  | none => rfl
  | some e =>
    cases e with
    | file c => rfl
    | folder f => exact absurd rfl closed

theorem kindPlace {e : Entry} (bare : ∀ f, e = .folder f → f = []) {way : List String} {f : Folder}
    (holder : f.kindAt? way.dropLast = some none) (closed : f.kindAt? way ≠ some none)
    (other : List String) :
    (place e way f).kindAt? other = if other = way then some e.content? else f.kindAt? other := by
  induction way generalizing f other with
  | nil => exact absurd rfl closed
  | cons name rest ih =>
    rw [kindAtCons] at closed
    cases other with
    | nil => simp [kindAtNil]
    | cons name' rest' =>
      simp only [kindAtCons]
      cases rest with
      | nil =>
        simp only [place, lookupSet]
        by_cases same : name' = name
        · subst same
          cases rest' with
          | nil => simp [kindBelow, below]
          | cons next rest' =>
            simp [kindBelowBare bare, kindBelowNotFolder closed]
        · simp [same]
      | cons next rest =>
        rw [List.dropLast_cons_cons, kindAtCons] at holder
        obtain ⟨g, found⟩ := folderOfKind holder
        rw [found, ← kindAtBelow] at holder closed
        simp only [place, lookupSet, inside, found]
        by_cases same : name' = name
        · subst same
          simp only [↓reduceIte, found, ← kindAtBelow, List.cons.injEq, true_and]
          exact ih holder closed rest'
        · simp [same]

theorem kindRemove {way : List String} {f : Folder} (closed : f.kindAt? way ≠ some none)
    (other : List String) :
    (f.remove way).kindAt? other = if other = way then none else f.kindAt? other := by
  induction way generalizing f other with
  | nil => exact absurd rfl closed
  | cons name rest ih =>
    rw [kindAtCons] at closed
    cases other with
    | nil => simp [kindAtNil]
    | cons name' rest' =>
      simp only [kindAtCons]
      cases rest with
      | nil =>
        simp only [remove, lookupErase]
        by_cases same : name' = name
        · subst same
          cases rest' with
          | nil => simp [kindBelow, below]
          | cons next rest' =>
            rw [kindBelowNotFolder closed]
            simp [kindBelow, belowNone]
        · simp [same]
      | cons next rest =>
        simp only [remove]
        cases found : f.lookup name with
        | none =>
          by_cases same : name' :: rest' = name :: next :: rest
          · cases same
            simp [found, kindBelow, belowNone]
          · simp [same]
        | some e =>
          cases e with
          | file c =>
            by_cases same : name' :: rest' = name :: next :: rest
            · cases same
              simp [found, kindBelow, below]
            · simp [same]
          | folder g =>
            rw [found, ← kindAtBelow] at closed
            simp only [lookupSet]
            by_cases same : name' = name
            · subst same
              simp only [↓reduceIte, found, ← kindAtBelow, List.cons.injEq, true_and]
              exact ih closed rest'
            · simp [same]

end Folder

def Location.holder (l : Location) : Location := ⟨l.origin, l.names.dropLast⟩

namespace Files

def kindAt? (f : Files) (l : Location) : Option (Option FileContent) :=
  (f.root l.origin).kindAt? l.names

theorem kindOfEntry (f : Files) (l : Location) : f.kindAt? l = (f.entryAt? l).map Entry.content? :=
  rfl

theorem contentOfKind (f : Files) (l : Location) : f.contentAt? l = (f.kindAt? l).join := by
  rw [kindOfEntry, contentAt?]
  cases f.entryAt? l with
  | none => rfl
  | some e => cases e <;> rfl

theorem rootSetRoot (f : Files) (o other : Origin) (folder : Folder) :
    root { f with roots := setRoot o folder f.roots } other =
      if other = o then folder else f.root other := by
  simp only [root]
  induction f.roots with
  | nil =>
    by_cases h : other = o
    · simp [setRoot, h]
    · simp [setRoot, List.lookup_cons, beq_eq_false_iff_ne.mpr h, h]
  | cons first rest ih =>
    obtain ⟨o', old⟩ := first
    by_cases same : o' = o
    · subst same
      by_cases h : other = o'
      · simp [setRoot, h]
      · simp [setRoot, List.lookup_cons, beq_eq_false_iff_ne.mpr h, h]
    · by_cases h : other = o'
      · subst h
        simp [setRoot, same]
      · simp only [setRoot, same, ↓reduceIte, List.lookup_cons, beq_eq_false_iff_ne.mpr h, ih]

theorem kindPlace {f : Files} {l : Location} {e : Entry} (bare : ∀ g, e = .folder g → g = [])
    (holder : f.kindAt? l.holder = some none) (closed : f.kindAt? l ≠ some none)
    (other : Location) :
    (f.place l e).kindAt? other = if other = l then some e.content? else f.kindAt? other := by
  obtain ⟨o, names⟩ := l
  obtain ⟨o', names'⟩ := other
  simp only [kindAt?, place, rootSetRoot, Location.mk.injEq]
  by_cases same : o' = o
  · subst same
    simp only [↓reduceIte, true_and]
    exact Folder.kindPlace bare holder closed names'
  · simp [same]

theorem kindRemove {f : Files} {l : Location} (closed : f.kindAt? l ≠ some none)
    (other : Location) :
    (f.remove l).kindAt? other = if other = l then none else f.kindAt? other := by
  obtain ⟨o, names⟩ := l
  obtain ⟨o', names'⟩ := other
  simp only [kindAt?, remove, rootSetRoot, Location.mk.injEq]
  by_cases same : o' = o
  · subst same
    simp only [↓reduceIte, true_and]
    exact Folder.kindRemove closed names'
  · simp [same]

theorem kindPlaceFile {f : Files} {l : Location} (c : FileContent)
    (holder : f.kindAt? l.holder = some none) (closed : f.kindAt? l ≠ some none)
    (other : Location) :
    (f.place l (.file c)).kindAt? other = if other = l then some (some c) else f.kindAt? other :=
  kindPlace (fun _ same => by cases same) holder closed other

end Files
end ClientGen
