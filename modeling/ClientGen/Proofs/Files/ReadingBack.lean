import ClientGen.Proofs.Files.Writing

/-! Reading after a write. A write that succeeds leaves every folder, so all paths still lead where
they led; what is at the end of its own path is the text that was written. Reading unifies line
ends, which is where the two sides part. -/
namespace ClientGen

namespace Text

theorem unifyFree (s : List Char) : '\r' ∉ unifyLineEnds s := by
  induction s using unifyLineEnds.induct with
  | case1 => simp [unifyLineEnds]
  | case2 rest ih => simpa [unifyLineEnds] using ih
  | case3 c rest _ ih =>
    rw [unifyLineEnds]
    · by_cases h : c = '\r'
      · simpa [h] using ih
      · simpa [h, Ne.symm h] using ih
    · assumption

theorem unifySame {s : List Char} : unifyLineEnds s = s ↔ '\r' ∉ s := by
  constructor
  · intro same
    rw [← same]
    exact unifyFree s
  · intro free
    induction s using unifyLineEnds.induct with
    | case1 => rfl
    | case2 rest _ => simp at free
    | case3 c rest _ ih =>
      simp only [List.mem_cons, not_or] at free
      rw [unifyLineEnds, ih free.2, if_neg (Ne.symm free.1)]
      assumption

end Text

namespace Files

theorem renamedFolders {f g : Files} {source : Location} {p : Path} {c : FileContent}
    (renamed : Renamed f source p c g) (l : Location) (folder : f.kindAt? l = some none) :
    g.kindAt? l = some none := by
  rw [renamedKind renamed, if_neg, if_neg, folder]
  · intro same
    simp [same, renamed.taken] at folder
  · intro same
    rw [same] at folder
    exact renamed.closed folder

theorem renamedContent {f g : Files} {source : Location} {p : Path} {c : FileContent}
    (renamed : Renamed f source p c g) : g.content p = .ok c := by
  obtain ⟨s, found⟩ := renamed.located
  refine contentIff.mpr ⟨locateAlike (renamedFolders renamed) found, ?_⟩
  rw [contentOfKind, renamedKind renamed, if_pos rfl]
  rfl

structure Passed (f : Files) (p : Path) (s : String) (g : Files) : Prop where
  allowed : isForbidden p = false
  steps : ∃ made opened temporary, Grown f made ∧ Created made opened temporary ∧
    Renamed (opened.place temporary (.file (.text s))) temporary p (.text s) g

theorem installRenamed {made f g : Files} {l : Location} {p : Path} {s : String}
    (created : Created made f l) (ok : f.install l p s = (g, .ok ())) :
    Renamed (f.place l (.file (.text s))) l p (.text s) g := by
  unfold install at ok
  rcases fillEnds f l s with filled | ⟨part, fault, _, filled⟩
  · simp only [filled] at ok
    cases moved : (f.place l (.file (.text s))).rename l p with
    | error fault => simp [moved] at ok
    | ok g' =>
      simp only [moved, Prod.mk.injEq, and_true] at ok
      subst ok
      obtain ⟨c, renamed⟩ := renameRenamed moved
      have source := renamed.taken
      rw [kindFilled created, if_pos rfl] at source
      cases source
      exact renamed
  · simp [filled] at ok

theorem writePassed {f g : Files} {p : Path} {s : String}
    (wrote : f.writeText p s = (g, .ok ())) : Passed f p s g := by
  have run := writeViaWritten transientLetters f p s
  rw [← writeText, wrote] at run
  generalize ended : (Except.ok () : Except Fault Unit) = last at run
  cases run with
  | stopped grown => contradiction
  | @installed made opened _ temporary r allowed grown created installed =>
    cases r with
    | error fault => contradiction
    | ok _ =>
      exact ⟨allowed, made, opened, temporary, grown, created, installRenamed created installed⟩

theorem passedContent {f g : Files} {p : Path} {s : String} (passed : Passed f p s g) :
    g.content p = .ok (.text s) := by
  obtain ⟨_, _, _, _, _, _, renamed⟩ := passed
  exact renamedContent renamed

theorem passedFolders {f g : Files} {p : Path} {s : String} (passed : Passed f p s g)
    (l : Location) (folder : f.kindAt? l = some none) : g.kindAt? l = some none := by
  obtain ⟨_, made, opened, temporary, grown, created, renamed⟩ := passed
  have kept := grown.folders l folder
  apply renamedFolders renamed
  rw [kindFilled created, if_neg, kept]
  intro same
  rw [same, created.absent] at kept
  contradiction

-- A text that was written is read with its line ends unified, so it is read as it was written where
-- it holds no carriage return. All other files are read as before.
theorem writtenRead {f g : Files} {directory : Path} {name s : String}
    (wrote : f.writeText (directory.append (Path.parse name)) s = (g, .ok ())) :
    let p := directory.append (Path.parse name)
    g.content p = .ok (.text s) ∧
    g.readText p = .ok (String.ofList (Text.unifyLineEnds s.toList)) ∧
    (g.readText p = .ok s ↔ '\r' ∉ s.toList) ∧
    (∀ q c, written q ≠ written p → f.content q = .ok c →
      g.content q = .ok c ∧ g.readText q = f.readText q) ∧
    ∀ l, l ≠ written p → g.contentAt? l = f.contentAt? l := by
  intro p
  have passed := writePassed wrote
  have held := passedContent passed
  have others : ∀ l, l ≠ written p → g.contentAt? l = f.contentAt? l := by
    intro l other
    rw [writeTextReplaced wrote l, if_neg other]
  have readBack : g.readText p = .ok (String.ofList (Text.unifyLineEnds s.toList)) := by
    simp [readText, p, passed.allowed, held]
  refine ⟨held, readBack, ?_, ?_, others⟩
  · rw [readBack, ← Text.unifySame, Except.ok.injEq, ← String.toList_inj, String.toList_ofList]
  · intro q c other here
    obtain ⟨⟨_, found⟩, content⟩ := contentIff.mp here
    have there : g.content q = .ok c :=
      contentIff.mpr ⟨locateAlike (passedFolders passed) found, (others _ other).trans content⟩
    exact ⟨there, by rw [readText, readText, here, there]⟩

theorem overwrittenRead :
    let p := (Path.parse "out").append (Path.parse "a.txt")
    let q := Path.parse "out/b.txt"
    let holding (s : String) : Files := { roots := [(.here, [("out",
      .folder [("a.txt", .file (.text s)), ("b.txt", .file (.text "kept"))])])] }
    (holding "old").writeText p "new" = (holding "new", .ok ()) ∧
      (holding "new").readText p = .ok "new" ∧
      (holding "new").readText q = (holding "old").readText q := by
  intro p q holding
  have wrote : (holding "old").writeText p "new" = (holding "new", .ok ()) := by rfl
  obtain ⟨_, _, same, others, _⟩ := writtenRead wrote
  have kept := (others q (.text "kept") (by decide) rfl).2
  exact ⟨wrote, same.mpr (by decide), kept⟩

-- A carriage return is read as a line end.
theorem returnRead :
    let p := (Path.parse "out").append (Path.parse "a.txt")
    let f : Files := { roots := [(.here, [("out", .folder [("a.txt", .file (.text "a\rb"))])])] }
    Files.empty.writeText p "a\rb" = (f, .ok ()) ∧ f.readText p = .ok "a\nb" ∧
      f.readText p ≠ .ok "a\rb" := by
  intro p f
  have unified : f.readText p = .ok "a\nb" := rfl
  rw [unified]
  exact ⟨by rfl, rfl, by simp⟩

end Files
end ClientGen
