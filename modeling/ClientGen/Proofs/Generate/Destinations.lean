import ClientGen.Proofs.Compile.Calls
import ClientGen.Proofs.Generate.WholeFiles
import ClientGen.Proofs.Naming.Identifier
import ClientGen.Proofs.Files.Inside

/-! Where a run puts its files: directly into the output directory, each under one name, as long as
no file name has a separator. In Python file names are identifiers. In TypeScript they are titles
without their blanks, and a title with a separator leads somewhere else. -/
namespace ClientGen.Generate

def Titled (parts : Parts) (r : Resource) (s : String) : Prop :=
  ∃ title, r.title parts = .ok title ∧ parts.view title = .str s

def stem : Language → String → List Char
  | .typescript, title => Naming.typeName title.toList
  | .python, title => Naming.namespaceKey (Naming.typeName title.toList)

structure Named (parts : Parts) (language : Language) (r : Resource) (n : Namespace) : Prop where
  module : ∃ s, Titled parts r s ∧ n.module = String.ofList (stem language s)
  filename : n.filename = n.module ++ language.extension

def FlatTitle (parts : Parts) (language : Language) (r : Resource) : Prop :=
  language = .typescript → ∀ s, Titled parts r s → '/' ∉ s.toList

variable {parts : Parts} {language : Language}

theorem titledOnce {r : Resource} {s t : String} (one : Titled parts r s)
    (other : Titled parts r t) : s = t := by
  obtain ⟨title, found, shown⟩ := one
  obtain ⟨title', found', shown'⟩ := other
  cases found.symm.trans found'
  cases shown.symm.trans shown'
  rfl

theorem flatTitled {r : Resource} {s : String} (titled : Titled parts r s) :
    FlatTitle parts .typescript r ↔ '/' ∉ s.toList := by
  constructor
  · intro flat
    exact flat rfl s titled
  · intro absent _ t other
    exact titledOnce titled other ▸ absent

theorem baseNameTitled {r : Resource} {base : List Char}
    (ok : View.baseName parts r = .ok base) :
    ∃ s, Titled parts r s ∧ base = Naming.typeName s.toList := by
  obtain ⟨title, found, ok⟩ := Fault.bindOk ok
  unfold View.titleText at ok
  split at ok
  · rename_i s shown
    cases ok
    exact ⟨s, ⟨title, found, shown⟩, rfl⟩
  · contradiction

theorem namespaceNamed {r : Resource} {n : Namespace}
    (ok : View.namespaceOf parts language r = .ok n) : Named parts language r n := by
  unfold View.namespaceOf at ok
  split at ok
  · obtain ⟨key, _, ok⟩ := Fault.bindOk ok
    obtain ⟨module, found, ok⟩ := Fault.bindOk ok
    obtain ⟨className, _, ok⟩ := Fault.bindOk ok
    cases ok
    obtain ⟨base, titled, found⟩ := Fault.bindOk found
    cases found
    obtain ⟨s, shown, rfl⟩ := baseNameTitled titled
    refine ⟨⟨s, shown, ?_⟩, rfl⟩
    cases language <;> rfl
  · contradiction

theorem namespacesNamed {rs : List Resource} {ns : List Namespace}
    (ok : View.namespaces parts language rs = .ok ns) :
    List.Forall₂ (Named parts language) rs ns := by
  induction rs generalizing ns with
  | nil =>
    cases ok
    exact .nil
  | cons r rs ih =>
    obtain ⟨n, first, ok⟩ := Fault.bindOk ok
    obtain ⟨ns', others, ok⟩ := Fault.bindOk ok
    cases ok
    exact .cons (namespaceNamed first) (ih others)

theorem fileIsName (language : Language) (module : String) :
    Path.IsName (module ++ language.extension) ↔ '/' ∉ module.toList := by
  have plain : '/' ∉ language.extension.toList := by cases language <;> decide
  have size : 3 ≤ (module ++ language.extension).toList.length := by
    cases language <;> simp [Language.extension]
  constructor
  · intro name inside
    exact name.single (by simp [inside])
  · intro absent
    refine ⟨fun same => ?_, fun same => ?_, fun same => ?_, by simp [absent, plain]⟩ <;>
      simp [same] at size

theorem indexIsName (language : Language) : Path.IsName language.indexFile := by
  cases language <;> decide

theorem namedInside {r : Resource} {n : Namespace} (named : Named parts language r n) :
    Path.IsName n.filename ↔ FlatTitle parts language r := by
  obtain ⟨⟨s, titled, module⟩, filename⟩ := named
  rw [filename, fileIsName, module, String.toList_ofList]
  cases language with
  | typescript =>
    have own : '/' ∈ stem .typescript s ↔ '/' ∈ s.toList :=
      Naming.typeNameMember.trans (and_iff_left (by decide))
    rw [own, flatTitled titled]
  | python =>
    have absent : '/' ∉ stem .python s := fun member =>
      absurd (Naming.namespaceKeyWord _ _ member) (by decide)
    exact iff_of_true absent nofun

theorem namesInside {rs : List Resource} {ns : List Namespace}
    (named : List.Forall₂ (Named parts language) rs ns) :
    (∀ n ∈ ns, Path.IsName n.filename) ↔ ∀ r ∈ rs, FlatTitle parts language r := by
  induction named with
  | nil => simp
  | cons first _ ih => simp [namedInside first, ih]

def filenames (language : Language) (ns : List Namespace) : List String :=
  ns.map (·.filename) ++ [language.indexFile]

theorem filenamesSingle {rs : List Resource} {ns : List Namespace}
    (named : List.Forall₂ (Named parts language) rs ns)
    (flat : ∀ r ∈ rs, FlatTitle parts language r) : ∀ s ∈ filenames language ns, Path.IsName s := by
  intro s member
  rcases List.mem_append.mp member with resource | index
  · obtain ⟨n, there, rfl⟩ := List.mem_map.mp resource
    exact (namesInside named).mpr flat n there
  · rw [List.mem_singleton.mp index]
    exact indexIsName language

namespace Job

theorem replacedElsewhere {contents : Location → Option FileContent}
    {writes : List (Path × String)} {l : Location}
    (elsewhere : ∀ w ∈ writes, l ≠ Files.written w.1) : replaced contents writes l = contents l := by
  induction writes generalizing contents with
  | nil => rfl
  | cons w writes ih =>
    obtain ⟨here, later⟩ := List.forall_mem_cons.mp elsewhere
    exact (ih later).trans (Function.update_of_ne here _ _)

theorem wroteElsewhere {jobs files writes last} (wrote : Wrote jobs files writes last)
    {l : Location} (elsewhere : ∀ p ∈ writes.map (·.1), l ≠ Files.written p) :
    last.contentAt? l = files.contentAt? l := by
  rw [wroteContents wrote]
  exact replacedElsewhere fun w member => elsewhere w.1 (List.mem_map_of_mem member)

end Job

variable {strict : Bool} {directory : Path} {source : TemplateSource}

theorem emitWrites {rs : List Resource} {ns : List Namespace}
    (named : View.namespaces parts language rs = .ok ns) (o : Output) :
    let run := emit parts language strict directory source rs o
    ∃ names, names <+: filenames language ns ∧
      (run.result = .ok () → names = filenames language ns) ∧
      run.output.written = o.written ++ names.map (destination directory) ∧
      ∀ l, run.output.files.contentAt? l ≠ o.files.contentAt? l →
        ∃ s ∈ names, l = Files.written (destination directory s) := by
  intro run
  let all := jobs parts language strict directory source rs ns
  have runs := emitRuns parts language strict directory source named o
  have output : run.output = (Job.runAll all o).1 := congrArg Prod.fst runs
  have result : run.result = (Job.runAll all o).2 := congrArg Prod.snd runs
  have destinations : all.map (·.path) = (filenames language ns).map (destination directory) := by
    rw [jobPaths parts language strict directory source named, filenames, List.map_append,
      List.map_map]
    rfl
  obtain ⟨writes, last, wrote, contents, written, ended⟩ := Job.runAllStops all o
  have paths : writes.map (·.1) =
      ((filenames language ns).take writes.length).map (destination directory) := by
    rw [Job.wrotePaths wrote, List.map_take, destinations, List.map_take]
  refine ⟨_, List.take_prefix writes.length _, fun done => ?_, ?_, fun l changed => ?_⟩
  · rcases ended with ⟨_, full⟩ | ⟨job, fault, _, stopped, _⟩
    · have size := congrArg List.length destinations
      rw [List.length_map, List.length_map] at size
      rw [full, size, List.take_length]
    · rw [result, stopped] at done
      contradiction
  · rw [output, written, paths]
  · rw [output, contents] at changed
    by_contra elsewhere
    refine changed (Job.wroteElsewhere wrote fun p member here => elsewhere ?_)
    rw [paths] at member
    obtain ⟨s, among, own⟩ := List.mem_map.mp member
    exact ⟨s, among, own ▸ here⟩

-- File names are single names exactly if no title passes a separator on to them, and then every
-- file that changes stands directly in the output directory.
theorem outputInside (rs : List Resource) (o : Output) :
    match View.namespaces parts language rs with
    | .error fault => emit parts language strict directory source rs o = Step.fail o fault
    | .ok ns =>
      let run := emit parts language strict directory source rs o
      ((∀ n ∈ ns, Path.IsName n.filename) ↔ ∀ r ∈ rs, FlatTitle parts language r) ∧
      ((∀ r ∈ rs, FlatTitle parts language r) → ∃ names,
        names <+: filenames language ns ∧ (run.result = .ok () → names = filenames language ns) ∧
        (∀ s ∈ names, Path.IsName s) ∧
        run.output.written = o.written ++ names.map (destination directory) ∧
        ∀ l, run.output.files.contentAt? l ≠ o.files.contentAt? l →
          ∃ s ∈ names, l = (Files.written directory).child s) := by
  cases named : View.namespaces parts language rs with
  | error fault => simp [emit, named]
  | ok ns =>
    refine ⟨namesInside (namespacesNamed named), fun flat => ?_⟩
    obtain ⟨names, among, full, written, changed⟩ := emitWrites named o
    have single : ∀ s ∈ names, Path.IsName s := fun s member =>
      filenamesSingle (namespacesNamed named) flat s (among.subset member)
    refine ⟨names, among, full, single, written, fun l differs => ?_⟩
    obtain ⟨s, member, here⟩ := changed l differs
    exact ⟨s, member, here.trans (Files.writtenBelow (single s member))⟩

theorem careTeamInside :
    (∀ s ∈ ["CareTeam.ts", "index.ts"], Path.IsName s) ∧
    (plainRun .typescript [titledResource "CareTeam" "Care Team"]).output.written =
      ["CareTeam.ts", "index.ts"].map (destination ⟨"", ["out"]⟩) := by
  have flat : ∀ r ∈ [titledResource "CareTeam" "Care Team"], FlatTitle [] .typescript r := by
    intro r member
    cases List.mem_singleton.mp member
    exact (flatTitled (s := "Care Team") ⟨_, rfl, rfl⟩).mpr (by decide)
  have done : (plainRun .typescript [titledResource "CareTeam" "Care Team"]).result = .ok () := by
    decide +kernel
  unfold plainRun at done ⊢
  obtain ⟨names, _, full, single, written, _⟩ := (@outputInside [] .typescript false ⟨"", ["out"]⟩
    .bundled [titledResource "CareTeam" "Care Team"] ⟨Files.empty, []⟩).2 flat
  have all : names = ["CareTeam.ts", "index.ts"] := full done
  rw [all] at single written
  exact ⟨single, written⟩

-- A title that goes up leads to a file beside the directory.
theorem escapeOutside :
    let run := plainRun .typescript [titledResource "Escape" "../Escape"]
    let l : Location := ⟨.here, ["Escape.ts"]⟩
    run.result = .ok () ∧ run.output.files.contentAt? l ≠ Files.empty.contentAt? l ∧
      ∀ name, l ≠ (Files.written ⟨"", ["out"]⟩).child name := by
  refine ⟨by decide +kernel, by decide +kernel, fun name same => ?_⟩
  have names := congrArg Location.names same
  simp [Location.child, Files.written, Location.below] at names

end ClientGen.Generate
