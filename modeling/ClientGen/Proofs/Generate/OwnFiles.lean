import ClientGen.Proofs.Generate.Destinations
import Mathlib.Data.Finset.Card

/-! When every resource keeps a file of its own. What a run writes last to a place stands there in
the end; so the files of a run that succeeds are as many as its resources and one more, each with
the text of its resource, as long as no two of them are at one place. They are apart exactly if the
file names are, and nothing in a run sees to that. -/
namespace ClientGen.Generate

variable {parts : Parts} {language : Language}

def indexModule : Language → String
  | .typescript => "index"
  | .python => "__init__"

theorem indexFilename (language : Language) :
    language.indexFile = indexModule language ++ language.extension := by
  cases language <;> rfl

def places (language : Language) (directory : Path) (ns : List Namespace) : List Location :=
  (filenames language ns).map fun s => Files.written (destination directory s)

theorem placesSplit {directory : Path} (front : List Namespace) (n : Namespace)
    (back : List Namespace) : places language directory (front ++ n :: back) =
      front.map (fun n => Files.written (destination directory n.filename)) ++
        Files.written (destination directory n.filename) :: places language directory back := by
  simp [places, filenames]

theorem destinationInj {directory : Path} {a b : String} (one : Path.IsName a)
    (other : Path.IsName b)
    (same : Files.written (destination directory a) = Files.written (destination directory b)) :
    a = b := by
  unfold destination at same
  rw [Files.writtenBelow one, Files.writtenBelow other] at same
  exact Location.childInj same

theorem filenamesModules {rs : List Resource} {ns : List Namespace}
    (named : List.Forall₂ (Named parts language) rs ns) :
    filenames language ns =
      (ns.map (·.module) ++ [indexModule language]).map (· ++ language.extension) := by
  have own : ns.map (·.filename) = (ns.map (·.module)).map (· ++ language.extension) := by
    induction named with
    | nil => rfl
    | cons first _ ih => simp only [List.map_cons, ih, first.filename]
  rw [filenames, own, indexFilename, List.map_append]
  rfl

theorem indexFree {rs : List Resource} {ns : List Namespace}
    (named : List.Forall₂ (Named parts .python) rs ns) :
    indexModule .python ∉ ns.map (·.module) := by
  induction named with
  | nil => simp
  | @cons r n rs ns first _ ih =>
    rw [List.map_cons, List.mem_cons, not_or]
    refine ⟨fun same => ?_, ih⟩
    obtain ⟨s, _, module⟩ := first.module
    have lead : (indexModule .python).toList = '_' :: '_' :: "init__".toList := by decide
    rw [same, module, String.toList_ofList, stem] at lead
    exact Naming.namespaceKeyLead _ _ lead

theorem placesApart {directory : Path} {rs : List Resource} {ns : List Namespace}
    (named : List.Forall₂ (Named parts language) rs ns)
    (flat : ∀ r ∈ rs, FlatTitle parts language r) :
    (places language directory ns).Nodup ↔
      (ns.map (·.module)).Nodup ∧ (language = .typescript → "index" ∉ ns.map (·.module)) := by
  have single := filenamesSingle named flat
  have byName : (places language directory ns).Nodup ↔ (filenames language ns).Nodup := by
    refine ⟨List.Nodup.of_map _, fun apart => apart.map_on fun a here b there => ?_⟩
    exact destinationInj (single a here) (single b there)
  have byModule : (filenames language ns).Nodup ↔
      (ns.map (·.module) ++ [indexModule language]).Nodup := by
    rw [filenamesModules named]
    refine List.nodup_map_iff fun a b same => ?_
    simpa using same
  have free : indexModule language ∉ ns.map (·.module) ↔
      (language = .typescript → "index" ∉ ns.map (·.module)) := by
    cases language with
    | typescript => exact ⟨fun absent _ => absent, fun absent => absent rfl⟩
    | python => exact iff_of_true (indexFree named) nofun
  rw [byName, byModule, ← List.concat_eq_append, List.nodup_concat, free, and_comm]

namespace Job

theorem runAllElsewhere {jobs : List Job} {l : Location}
    (elsewhere : ∀ job ∈ jobs, l ≠ Files.written job.path) (o : Output) :
    (runAll jobs o).1.files.contentAt? l = o.files.contentAt? l := by
  obtain ⟨writes, last, wrote, contents, _⟩ := runAllStops jobs o
  rw [contents]
  refine wroteElsewhere wrote fun p member => ?_
  rw [wrotePaths wrote] at member
  obtain ⟨job, early, rfl⟩ := List.mem_map.mp member
  exact elsewhere job (List.mem_of_mem_take early)

theorem runAllStands {job : Job} {rest : List Job} {o : Output}
    (done : (runAll (job :: rest) o).2 = .ok ())
    (apart : ∀ other ∈ rest, Files.written job.path ≠ Files.written other.path) :
    ∃ text, job.text o.files = .ok text ∧
      (runAll (job :: rest) o).1.files.contentAt? (Files.written job.path) = some (.text text) := by
  cases rendered : job.text o.files with
  | error fault => simp [runAll, run, rendered] at done
  | ok text =>
    refine ⟨text, rfl, ?_⟩
    cases placed : o.files.writeText job.path text with
    | mk files ended =>
      cases ended with
      | error fault => simp [runAll, run, rendered, placed] at done
      | ok _ =>
        have step : runAll (job :: rest) o = runAll rest ⟨files, o.written ++ [job.path]⟩ := by
          simp [runAll, run, rendered, placed]
        have here := Files.writeTextReplaced placed (Files.written job.path)
        rw [step, runAllElsewhere apart, here, if_pos rfl]

end Job

variable {strict : Bool} {directory : Path} {source : TemplateSource}

theorem emitStands {rs : List Resource} {ns : List Namespace} {o : Output}
    (named : View.namespaces parts language rs = .ok ns)
    (done : (emit parts language strict directory source rs o).result = .ok ())
    {before after : List (Resource × Namespace)} {r : Resource} {n : Namespace}
    (here : rs.zip ns = before ++ (r, n) :: after)
    (last : Files.written (destination directory n.filename) ∉
      places language directory (after.map (·.2))) :
    ∃ text, resourceText parts language strict source r n
        (writeResources parts language strict directory source before o).output.files = .ok text ∧
      (emit parts language strict directory source rs o).output.files.contentAt?
        (Files.written (destination directory n.filename)) = some (.text text) := by
  let job := resourceJob parts language strict directory source
  let rest := after.map job ++ [indexJob language directory source ns]
  have runs := emitRuns parts language strict directory source named o
  have order : jobs parts language strict directory source rs ns =
      before.map job ++ (job (r, n) :: rest) := by
    rw [jobs, here, List.map_append, List.append_assoc]
    rfl
  rw [order, writeResourcesRun] at runs
  have output := congrArg Prod.fst runs
  have result := congrArg Prod.snd runs
  dsimp only at output result
  rw [result] at done
  rw [output]
  cases front : (writeResources parts language strict directory source before o).result with
  | error fault => simp [front] at done
  | ok _ =>
    rw [front] at done
    refine Job.runAllStands done fun other later same => last ?_
    rcases List.mem_append.mp later with resource | index
    · obtain ⟨e, inside, rfl⟩ := List.mem_map.mp resource
      refine List.mem_map.mpr ⟨e.2.filename, List.mem_append_left _ ?_, same.symm⟩
      exact List.mem_map_of_mem (List.mem_map_of_mem inside)
    · cases List.mem_singleton.mp index
      exact List.mem_map.mpr ⟨language.indexFile, List.mem_append_right _ (by simp), same.symm⟩

-- Resources keep their files exactly if the file names are apart from each other and the index.
theorem resourcesKeepFiles {rs : List Resource} {ns : List Namespace} {o : Output}
    (named : View.namespaces parts language rs = .ok ns)
    (done : (emit parts language strict directory source rs o).result = .ok ()) :
    let run := emit parts language strict directory source rs o
    let all := places language directory ns
    (∃ paths, run.output.written = o.written ++ paths ∧ paths.map Files.written = all) ∧
    (all.toFinset.card = rs.length + 1 ↔ all.Nodup) ∧
    ((∀ r ∈ rs, FlatTitle parts language r) → (all.Nodup ↔
      (ns.map (·.module)).Nodup ∧ (language = .typescript → "index" ∉ ns.map (·.module)))) ∧
    (all.Nodup → ∀ before r n after, rs.zip ns = before ++ (r, n) :: after → ∃ text,
      resourceText parts language strict source r n
        (writeResources parts language strict directory source before o).output.files = .ok text ∧
      run.output.files.contentAt? (Files.written (destination directory n.filename)) =
        some (.text text)) := by
  intro run all
  have size : all.length = rs.length + 1 := by
    simp [all, places, filenames, namespacesLength parts language named]
  refine ⟨?_, ?_, placesApart (namespacesNamed named), fun apart before r n after here => ?_⟩
  · obtain ⟨names, _, full, written, _⟩ := emitWrites named o
    refine ⟨_, written, ?_⟩
    rw [full done, List.map_map]
    rfl
  · rw [← size]
    exact Multiset.toFinset_card_eq_card_iff_nodup
  · refine emitStands named done here ?_
    have second : ns = before.map (·.2) ++ n :: after.map (·.2) := by
      rw [← List.map_snd_zip (Nat.le_of_eq (namespacesLength parts language named)), here]
      simp
    simp only [all, second, placesSplit] at apart
    exact (List.nodup_cons.mp apart.of_append_right).1

def clinics : List Resource :=
  [titledResource "CareTeam" "Care Team", titledResource "Clinic" "Clinic"]

theorem clinicsKept : ∃ ns, View.namespaces [] .typescript clinics = .ok ns ∧
    (plainRun .typescript clinics).result = .ok () ∧
    (places .typescript ⟨"", ["out"]⟩ ns).toFinset.card = 3 ∧
    ∀ before r n after, clinics.zip ns = before ++ (r, n) :: after → ∃ text,
      resourceText [] .typescript false .bundled r n (writeResources [] .typescript false
        ⟨"", ["out"]⟩ .bundled before ⟨Files.empty, []⟩).output.files = .ok text ∧
      (plainRun .typescript clinics).output.files.contentAt?
        (Files.written (destination ⟨"", ["out"]⟩ n.filename)) = some (.text text) := by
  have flat : ∀ r ∈ clinics, FlatTitle [] .typescript r := by
    intro r member
    rcases List.mem_pair.mp member with rfl | rfl
    · exact (flatTitled (s := "Care Team") ⟨_, rfl, rfl⟩).mpr (by decide)
    · exact (flatTitled (s := "Clinic") ⟨_, rfl, rfl⟩).mpr (by decide)
  have named : ∃ ns, View.namespaces [] .typescript clinics = .ok ns ∧
      ns.map (·.module) = ["CareTeam", "Clinic"] := ⟨_, rfl, rfl⟩
  obtain ⟨ns, named, modules⟩ := named
  have done : (plainRun .typescript clinics).result = .ok () := by decide +kernel
  unfold plainRun at done ⊢
  obtain ⟨_, count, apart, stands⟩ := resourcesKeepFiles named done
  rw [modules] at apart
  have own := (apart flat).mpr (by decide)
  exact ⟨ns, named, done, count.mpr own, stands own⟩

def twins : List Resource :=
  [titledResource "First" "Care Team", titledResource "Second" "CareTeam"]

theorem twinsShare : ∃ ns, View.namespaces [] .typescript twins = .ok ns ∧
    (plainRun .typescript twins).result = .ok () ∧
    ¬ (places .typescript ⟨"", ["out"]⟩ ns).Nodup := by
  have named : ∃ ns, View.namespaces [] .typescript twins = .ok ns ∧
      filenames .typescript ns = ["CareTeam.ts", "CareTeam.ts", "index.ts"] := ⟨_, rfl, rfl⟩
  obtain ⟨ns, named, same⟩ := named
  refine ⟨ns, named, by decide +kernel, ?_⟩
  simp [places, same]

end ClientGen.Generate
