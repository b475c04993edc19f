import ClientGen.Proofs.Files.Following

/-! What writing a file leaves behind. Making directories changes no file. A temporary file is made
where nothing is, and it is gone again whether or not it has taken the place of the file that was to
be written; so a write that fails changes no file, and one that succeeds changes one. -/
namespace ClientGen.Files

def Grown (f g : Files) : Prop :=
  ∀ l, g.kindAt? l = f.kindAt? l ∨ f.kindAt? l = none ∧ g.kindAt? l = some none

theorem Grown.refl (f : Files) : Grown f f := fun _ => .inl rfl

theorem Grown.trans {f g h : Files} (first : Grown f g) (second : Grown g h) : Grown f h := by
  intro l
  rcases first l with same | ⟨absent, made⟩
  · rw [← same]
    exact second l
  · rcases second l with same | ⟨absent', _⟩
    · exact .inr ⟨absent, same.trans made⟩
    · rw [made] at absent'
      contradiction

theorem Grown.content {f g : Files} (grown : Grown f g) (l : Location) :
    g.contentAt? l = f.contentAt? l := by
  rw [contentOfKind, contentOfKind]
  rcases grown l with same | ⟨absent, made⟩
  · rw [same]
  · rw [absent, made]
    rfl

theorem Grown.folders {f g : Files} (grown : Grown f g) (l : Location)
    (folder : f.kindAt? l = some none) : g.kindAt? l = some none := by
  rcases grown l with same | ⟨absent, _⟩
  · rw [same, folder]
  · rw [absent] at folder
    contradiction

theorem makeDirectoryGrown {f g : Files} {p : Path} (ok : f.makeDirectory p = .ok g) :
    Grown f g := by
  simp only [makeDirectory, bind, Except.bind] at ok
  cases found : f.locate p with
  | error fault => simp [found] at ok
  | ok s =>
    simp only [found] at ok
    cases entry : s.entry with
    | some e => simp [entry] at ok
    | none =>
      simp only [entry, Except.ok.injEq] at ok
      subst ok
      have absent : f.kindAt? s.location = none := by
        rw [kindOfEntry, locateEntry found, entry]
        rfl
      have closed : f.kindAt? s.location ≠ some none := by rw [absent]; simp
      have holder := locateHolder found (by simp [entry])
      intro l
      rw [kindPlace (fun g same => by cases same; rfl) holder closed]
      by_cases here : l = s.location
      · rw [if_pos here, here]
        exact .inr ⟨absent, rfl⟩
      · rw [if_neg here]
        exact .inl rfl

theorem keepDirectorySame {f g : Files} {p : Path} {fault : FileFault}
    (ok : f.keepDirectory p fault = .ok g) : g = f := by
  simp only [keepDirectory, bind, Except.bind] at ok
  split at ok
  · contradiction
  · split at ok
    · exact (Except.ok.inj ok).symm
    · contradiction

theorem keepSame (f : Files) (p : Path) (fault : FileFault) : (f.keep p fault).1 = f := by
  unfold keep
  cases kept : f.keepDirectory p fault with
  | error fault => rfl
  | ok g => exact keepDirectorySame kept

theorem keepGrown (f : Files) (p : Path) (fault : FileFault) : Grown f (f.keep p fault).1 := by
  rw [keepSame]
  exact .refl f

theorem makeDirectoriesGrown (fuel : Nat) (p : Path) (f : Files) :
    Grown f (makeDirectories fuel p f).1 := by
  induction fuel generalizing p f with
  | zero => exact .refl f
  | succ fuel ih =>
    simp only [makeDirectories]
    cases made : f.makeDirectory p with
    | ok g => exact makeDirectoryGrown made
    | error fault =>
      cases fault with
      | missing =>
        simp only
        split
        · exact .refl f
        · have outer := ih p.parent f
          generalize makeDirectories fuel p.parent f = result at outer ⊢
          obtain ⟨f', ended⟩ := result
          cases ended with
          | error fault => exact outer
          | ok _ =>
            simp only
            cases again : f'.makeDirectory p with
            | ok g => exact outer.trans (makeDirectoryGrown again)
            | error fault =>
              cases fault with
              | missing => exact outer
              | _ => exact outer.trans (keepGrown f' p _)
      | _ => exact keepGrown f p _

structure Created (before after : Files) (l : Location) : Prop where
  absent : before.kindAt? l = none
  holder : before.kindAt? l.holder = some none
  after : ∀ other, after.kindAt? other =
    if other = l then some (some (.text "")) else before.kindAt? other

theorem createFileCreated {f g : Files} {p : Path} {l : Location}
    (ok : f.createFile p = .ok (l, g)) : Created f g l := by
  simp only [createFile, bind, Except.bind] at ok
  cases found : f.locate p with
  | error fault => simp [found] at ok
  | ok s =>
    simp only [found] at ok
    cases entry : s.entry with
    | some e => simp [entry] at ok
    | none =>
      simp only [entry, Except.ok.injEq, Prod.mk.injEq] at ok
      obtain ⟨rfl, rfl⟩ := ok
      have absent : f.kindAt? s.location = none := by
        rw [kindOfEntry, locateEntry found, entry]
        rfl
      have holder := locateHolder found (by simp [entry])
      exact ⟨absent, holder, kindPlaceFile _ holder (by simp [absent])⟩

theorem createTransientCreated {letters : Nat → String} {f g : Files} {p : Path} {l : Location}
    {tries k : Nat} (ok : createTransient letters f p tries k = .ok (l, g)) : Created f g l := by
  induction tries generalizing k with
  | zero => simp [createTransient] at ok
  | succ tries ih =>
    simp only [createTransient] at ok
    split at ok
    · exact ih ok
    · exact createFileCreated ok

section Created

variable {before f : Files} {l : Location} (created : Created before f l)
include created

theorem kindFilled (c : FileContent) (other : Location) :
    (f.place l (.file c)).kindAt? other =
      if other = l then some (some c) else before.kindAt? other := by
  have outside : l.holder ≠ l := by
    intro same
    have holder := created.holder
    rw [same, created.absent] at holder
    contradiction
  have holder : f.kindAt? l.holder = some none := by
    rw [created.after, if_neg outside]
    exact created.holder
  have closed : f.kindAt? l ≠ some none := by rw [created.after, if_pos rfl]; simp
  rw [kindPlaceFile _ holder closed, created.after]
  by_cases h : other = l <;> simp [h]

theorem kindWithdrawn (c : FileContent) (other : Location) :
    ((f.place l (.file c)).remove l).kindAt? other = before.kindAt? other := by
  have filled := kindFilled created c
  have closed : (f.place l (.file c)).kindAt? l ≠ some none := by rw [filled, if_pos rfl]; simp
  rw [kindRemove closed, filled]
  by_cases h : other = l
  · simp [h, created.absent]
  · simp [h]

end Created

-- Whatever stands in a temporary file, it is the whole text where nothing broke off.
theorem fillEnds (f : Files) (l : Location) (s : String) :
    f.fill l s = (f.place l (.file (.text s)), .ok ()) ∨
      ∃ part fault, f.breaks f.roots l s = some (part, fault) ∧
        f.fill l s = (f.place l (.file part), .error fault) := by
  unfold fill
  cases f.breaks f.roots l s with
  | none => exact .inl rfl
  | some broken => exact .inr ⟨broken.1, broken.2, rfl, rfl⟩

structure Renamed (f : Files) (source : Location) (p : Path) (c : FileContent) (g : Files) :
    Prop where
  located : ∃ s, f.locate p = .ok s
  taken : f.kindAt? source = some (some c)
  holder : f.kindAt? (written p).holder = some none
  closed : f.kindAt? (written p) ≠ some none
  files : g = (f.remove source).place (written p) (.file c)

theorem renameRenamed {f g : Files} {source : Location} {p : Path}
    (ok : f.rename source p = .ok g) : ∃ c, Renamed f source p c g := by
  simp only [rename] at ok
  split at ok
  · contradiction
  · simp only [bind, Except.bind] at ok
    cases found : f.locate p with
    | error fault => simp [found] at ok
    | ok s =>
      have place := (locateValid found).2
      simp only [found] at ok
      split at ok
      · contradiction
      · rename_i c here closed
        have free : ∀ g, s.entry ≠ some (.folder g) := closed
        cases ok
        refine ⟨c, ⟨s, found⟩, ?_, place ▸ locateHolder found free, ?_, by rw [place]⟩
        · rw [kindOfEntry, here]
          rfl
        · rw [kindOfEntry, ← place, locateEntry found]
          cases entry : s.entry with
          | none => simp
          | some e => cases e with
            | file c => simp [Entry.content?]
            | folder g => exact absurd entry (free g)
      · contradiction

theorem renamedKind {f g : Files} {source : Location} {p : Path} {c : FileContent}
    (renamed : Renamed f source p c g) (l : Location) : g.kindAt? l =
      if l = written p then some (some c) else if l = source then none else f.kindAt? l := by
  have leaves := kindRemove (f := f) (l := source) (by rw [renamed.taken]; simp)
  have holder : (f.remove source).kindAt? (written p).holder = some none := by
    rw [leaves, if_neg, renamed.holder]
    intro same
    have inside := renamed.holder
    rw [same, renamed.taken] at inside
    simp at inside
  have vacant : (f.remove source).kindAt? (written p) ≠ some none := by
    rw [leaves]
    split
    · simp
    · exact renamed.closed
  rw [renamed.files, kindPlaceFile _ holder vacant, leaves]

def Replaced {α ε : Type} (before after : Location → Option α) (p : Path) (x : α) :
    Except ε Unit → Prop
  | .ok _ => ∀ l, after l = if l = written p then some x else before l
  | .error _ => ∀ l, after l = before l

theorem installReplaced {before f : Files} {l : Location} (created : Created before f l) (p : Path)
    (s : String) : Replaced before.kindAt? (f.install l p s).1.kindAt? p (some (.text s))
      (f.install l p s).2 := by
  unfold install
  rcases fillEnds f l s with filled | ⟨part, fault, _, filled⟩
  · simp only [filled]
    cases moved : (f.place l (.file (.text s))).rename l p with
    | error fault => exact kindWithdrawn created _
    | ok g =>
      intro other
      obtain ⟨c, renamed⟩ := renameRenamed moved
      have source := renamed.taken
      rw [kindFilled created, if_pos rfl] at source
      cases source
      simp only [renamedKind renamed, kindFilled created]
      by_cases h : other = l
      · simp [h, created.absent]
      · simp [h]
  · simp only [filled]
    exact kindWithdrawn created part

inductive Written (f : Files) (p : Path) (s : String) : Files × Except Fault Unit → Prop
  | stopped {g fault} (grown : Grown f g) : Written f p s (g, .error fault)
  | installed {made opened g : Files} {temporary ended} (allowed : isForbidden p = false)
      (grown : Grown f made) (created : Created made opened temporary)
      (installed : opened.install temporary p s = (g, ended)) :
      Written f p s (g, ended.mapError fun fault => .file fault p.text)

theorem writeViaWritten (letters : Nat → String) (f : Files) (p : Path) (s : String) :
    Written f p s (f.writeVia letters p s) := by
  simp only [writeVia]
  split
  · exact .stopped (.refl f)
  · have grown := makeDirectoriesGrown (p.steps.length + 1) p.parent f
    generalize makeDirectories (p.steps.length + 1) p.parent f = result at grown ⊢
    obtain ⟨made, ended⟩ := result
    cases ended with
    | error fault => exact .stopped grown
    | ok _ =>
      simp only
      split
      · exact .stopped grown
      · rename_i allowed
        split
        · exact .stopped grown
        · cases opened : createTransient letters made p transientTries 0 with
          | error fault => exact .stopped grown
          | ok pair =>
            obtain ⟨temporary, opened'⟩ := pair
            have created := createTransientCreated opened
            simp only
            cases installed : opened'.install temporary p s with
            | mk g ended =>
              have whole := Written.installed (by simpa using allowed) grown created installed
              cases ended with
              | error fault => exact whole
              | ok _ => exact whole

theorem writtenReplaced {f : Files} {p : Path} {s : String} {result : Files × Except Fault Unit}
    (run : Written f p s result) :
    Replaced f.contentAt? result.1.contentAt? p (.text s) result.2 := by
  cases run with
  | stopped grown => exact grown.content
  | @installed made opened g temporary ended _ grown created installed =>
    have kinds := installReplaced created p s
    rw [installed] at kinds
    cases ended with
    | error fault =>
      intro l
      rw [← grown.content l, contentOfKind, contentOfKind, kinds l]
    | ok _ =>
      intro l
      rw [← grown.content l, contentOfKind, contentOfKind, kinds l]
      by_cases h : l = written p <;> simp [h]

theorem writeTextReplaced {f g : Files} {p : Path} {s : String} {ended : Except Fault Unit}
    (wrote : f.writeText p s = (g, ended)) :
    Replaced f.contentAt? g.contentAt? p (.text s) ended := by
  have replaced := writtenReplaced (writeViaWritten transientLetters f p s)
  rw [← writeText, wrote] at replaced
  exact replaced

end ClientGen.Files
