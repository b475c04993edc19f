import ClientGen.Generate
import ClientGen.Proofs.Files.Writing
import Mathlib.Data.List.Forall2
import Mathlib.Logic.Function.Basic

/-! A run leaves whole files only. It is a row of jobs, one for every resource and the last for the
index; a job renders a text from the files that are there by then and puts it in place. A run that
stops has carried out the jobs before the one it stops at, and nothing else has changed. -/
namespace ClientGen.Generate

structure Job where
  path : Path
  text : Files → Except Fault String

namespace Job

def run (job : Job) (o : Output) : Output × Except Fault Unit :=
  match job.text o.files with
  | .error fault => (o, .error fault)
  | .ok text =>
    match o.files.writeText job.path text with
    | (files, .error fault) => ({ o with files := files }, .error fault)
    | (files, .ok ()) => (⟨files, o.written ++ [job.path]⟩, .ok ())

def runAll : List Job → Output → Output × Except Fault Unit
  | [], o => (o, .ok ())
  | job :: rest, o =>
    match job.run o with
    | (o, .error fault) => (o, .error fault)
    | (o, .ok ()) => runAll rest o

inductive Fails (job : Job) (files : Files) (fault : Fault) : Prop
  | text (none : job.text files = .error fault)
  | place {text files'} (rendered : job.text files = .ok text)
      (stopped : files.writeText job.path text = (files', .error fault))

inductive Wrote : List Job → Files → List (Path × String) → Files → Prop
  | none (jobs files) : Wrote jobs files [] files
  | next {job jobs files text files' writes last} (rendered : job.text files = .ok text)
      (placed : files.writeText job.path text = (files', .ok ()))
      (rest : Wrote jobs files' writes last) :
      Wrote (job :: jobs) files ((job.path, text) :: writes) last

theorem wrotePaths {jobs files writes last} (wrote : Wrote jobs files writes last) :
    writes.map (·.1) = (jobs.take writes.length).map (·.path) := by
  induction wrote with
  | none => rfl
  | next rendered placed rest ih => simp [ih]

def replaced (contents : Location → Option FileContent) (writes : List (Path × String)) :
    Location → Option FileContent :=
  writes.foldl (fun contents w => Function.update contents (Files.written w.1) (some (.text w.2)))
    contents

theorem wroteContents {jobs files writes last} (wrote : Wrote jobs files writes last) :
    last.contentAt? = replaced files.contentAt? writes := by
  induction wrote with
  | none => rfl
  | @next job jobs files text files' writes last rendered placed rest ih =>
    have step : files'.contentAt? =
        Function.update files.contentAt? (Files.written job.path) (some (.text text)) := by
      funext l
      rw [Files.writeTextReplaced placed l, Function.update_apply]
    rw [ih, step]
    rfl

theorem runAllStops (jobs : List Job) (o : Output) :
    ∃ writes last, Wrote jobs o.files writes last ∧
      (runAll jobs o).1.files.contentAt? = last.contentAt? ∧
      (runAll jobs o).1.written = o.written ++ writes.map (·.1) ∧
      ((runAll jobs o).2 = .ok () ∧ writes.length = jobs.length ∨
        ∃ job fault, jobs[writes.length]? = some job ∧ (runAll jobs o).2 = .error fault ∧
          job.Fails last fault) := by
  induction jobs generalizing o with
  | nil => exact ⟨[], o.files, .none _ _, rfl, by simp [runAll], .inl ⟨rfl, rfl⟩⟩
  | cons job jobs ih =>
    cases rendered : job.text o.files with
    | error fault =>
      refine ⟨[], o.files, .none _ _, ?_, ?_, .inr ⟨job, fault, rfl, ?_, .text rendered⟩⟩ <;>
        simp [runAll, run, rendered]
    | ok text =>
      cases placed : o.files.writeText job.path text with
      | mk files ended =>
        cases ended with
        | error fault =>
          have same := Files.writeTextReplaced placed
          refine ⟨[], o.files, .none _ _, ?_, ?_,
            .inr ⟨job, fault, rfl, ?_, .place rendered placed⟩⟩
          · simpa [runAll, run, rendered, placed] using funext same
          · simp [runAll, run, rendered, placed]
          · simp [runAll, run, rendered, placed]
        | ok _ =>
          have step : runAll (job :: jobs) o = runAll jobs ⟨files, o.written ++ [job.path]⟩ := by
            simp [runAll, run, rendered, placed]
          obtain ⟨writes, last, wrote, contents, written, ended⟩ :=
            ih ⟨files, o.written ++ [job.path]⟩
          rw [step]
          refine ⟨(job.path, text) :: writes, last, .next rendered placed wrote, contents, ?_, ?_⟩
          · simp [written]
          · simpa using ended

end Job

variable (parts : Parts) (language : Language) (strict : Bool) (directory : Path)
  (source : TemplateSource)

def resourceText (r : Resource) (n : Namespace) (files : Files) : Except Fault String := do
  let view ← (View.resource parts language strict r n.className).result
  Template.render (← template source (Template.resourceTemplate language)
    language.resourceTemplate files) view.scope

def indexText (ns : List Namespace) (files : Files) : Except Fault String := do
  Template.render (← template source (Template.indexTemplate language) language.indexTemplate files)
    (indexVariables ns)

def destination (filename : String) : Path := directory.append (Path.parse filename)

def resourceJob (e : Resource × Namespace) : Job :=
  ⟨destination directory e.2.filename, resourceText parts language strict source e.1 e.2⟩

def indexJob (ns : List Namespace) : Job :=
  ⟨destination directory language.indexFile, indexText language source ns⟩

def jobs (rs : List Resource) (ns : List Namespace) : List Job :=
  (rs.zip ns).map (resourceJob parts language strict directory source) ++
    [indexJob language directory source ns]

theorem writeRuns {bundled : List Template.Piece} {name filename : String} {scope : Template.Scope}
    (job : Job) (path : job.path = destination directory filename)
    (text : ∀ files, job.text files =
      (do Template.render (← template source bundled name files) scope)) (o : Output) :
    ((write directory source bundled name filename scope o).output,
      (write directory source bundled name filename scope o).result) = job.run o := by
  simp only [write, Job.run, text, path, destination]
  cases (do Template.render (← template source bundled name o.files) scope :
    Except Fault String) with
  | error fault => rfl
  | ok text =>
    simp only
    generalize o.files.writeText _ text = result
    obtain ⟨files, ended⟩ := result
    cases ended <;> rfl

theorem writeResourceRuns (r : Resource) (n : Namespace) (o : Output) :
    ((writeResource parts language strict directory source r n o).output,
      (writeResource parts language strict directory source r n o).result) =
      (resourceJob parts language strict directory source (r, n)).run o := by
  simp only [writeResource, Step.ofReport, Step.andThen]
  cases compiled : (View.resource parts language strict r n.className).result with
  | error fault => simp [Job.run, resourceJob, resourceText, compiled, bind, Except.bind]
  | ok view =>
    refine writeRuns directory source _ rfl (fun files => ?_) o
    simp [resourceJob, resourceText, compiled, bind, Except.bind]

theorem writeResourcesRun (es : List (Resource × Namespace)) (rest : List Job) (o : Output) :
    Job.runAll (es.map (resourceJob parts language strict directory source) ++ rest) o =
      match (writeResources parts language strict directory source es o).result with
      | .error fault => ((writeResources parts language strict directory source es o).output,
          .error fault)
      | .ok () =>
        Job.runAll rest (writeResources parts language strict directory source es o).output := by
  induction es generalizing o with
  | nil => rfl
  | cons e es ih =>
    obtain ⟨r, n⟩ := e
    simp only [List.map_cons, List.cons_append, Job.runAll, writeResources, Step.andThen,
      ← writeResourceRuns]
    cases (writeResource parts language strict directory source r n o).result with
    | error fault => rfl
    | ok _ => exact ih _

theorem emitRuns {rs : List Resource} {ns : List Namespace}
    (named : View.namespaces parts language rs = .ok ns) (o : Output) :
    ((emit parts language strict directory source rs o).output,
      (emit parts language strict directory source rs o).result) =
      Job.runAll (jobs parts language strict directory source rs ns) o := by
  simp only [emit, named, Step.andThen, jobs, writeResourcesRun]
  cases (writeResources parts language strict directory source (rs.zip ns) o).result with
  | error fault => rfl
  | ok _ =>
    have last := writeRuns directory source (indexJob language directory source ns) rfl
      (fun files => rfl)
      (writeResources parts language strict directory source (rs.zip ns) o).output
    simp only [Job.runAll, ← last]
    cases (write directory source _ _ _ _ _).result <;> rfl

theorem namespacesEach {rs : List Resource} {ns : List Namespace}
    (named : View.namespaces parts language rs = .ok ns) :
    List.Forall₂ (fun r n => View.namespaceOf parts language r = .ok n) rs ns := by
  induction rs generalizing ns with
  | nil =>
    cases named
    exact .nil
  | cons r rs ih =>
    obtain ⟨n, first, named⟩ := Fault.bindOk named
    obtain ⟨ns', others, named⟩ := Fault.bindOk named
    cases named
    exact .cons first (ih others)

theorem namespacesLength {rs : List Resource} {ns : List Namespace}
    (named : View.namespaces parts language rs = .ok ns) : ns.length = rs.length :=
  (namespacesEach parts language named).length_eq.symm

theorem namespacesStop {rs : List Resource} {fault : Fault}
    (stopped : View.namespaces parts language rs = .error fault) : ∃ earlier r later,
      rs = earlier ++ r :: later ∧ (∃ ns, View.namespaces parts language earlier = .ok ns) ∧
      View.namespaceOf parts language r = .error fault := by
  induction rs with
  | nil => cases stopped
  | cons r rs ih =>
    cases first : View.namespaceOf parts language r with
    | error fault' =>
      simp only [View.namespaces, first, bind, Except.bind, Except.error.injEq] at stopped
      exact ⟨[], r, rs, rfl, ⟨[], rfl⟩, stopped ▸ first⟩
    | ok n =>
      cases others : View.namespaces parts language rs with
      | ok ns => simp [View.namespaces, first, others, bind, Except.bind, pure, Except.pure] at stopped
      | error fault' =>
        simp only [View.namespaces, first, others, bind, Except.bind, Except.error.injEq] at stopped
        obtain ⟨earlier, r', later, rfl, ⟨ns, named⟩, failed⟩ := ih (stopped ▸ others)
        refine ⟨r :: earlier, r', later, rfl, ⟨n :: ns, ?_⟩, failed⟩
        simp [View.namespaces, first, named, bind, Except.bind, pure, Except.pure]

theorem jobPaths {rs : List Resource} {ns : List Namespace}
    (named : View.namespaces parts language rs = .ok ns) :
    (jobs parts language strict directory source rs ns).map (·.path) =
      ns.map (fun n => destination directory n.filename) ++
        [destination directory language.indexFile] := by
  have second : (rs.zip ns).map Prod.snd = ns :=
    List.map_snd_zip (Nat.le_of_eq (namespacesLength parts language named))
  have paths : (rs.zip ns).map (fun e => destination directory e.2.filename) =
      ns.map (fun n => destination directory n.filename) := by
    rw [← second, List.map_map, second]
    rfl
  simp only [jobs, List.map_append, List.map_map]
  exact congrArg (· ++ _) paths

-- A run stops before it writes when a resource cannot be named. Else it carries out the jobs of the
-- resources, in their order and each with its own namespace, and then that of the index, up to one
-- that fails; nothing else is in the files.
theorem emitLeavesWholeFiles (rs : List Resource) (o : Output) :
    let run := emit parts language strict directory source rs o
    (∃ earlier r later ns fault, rs = earlier ++ r :: later ∧
      List.Forall₂ (fun r n => View.namespaceOf parts language r = .ok n) earlier ns ∧
      View.namespaceOf parts language r = .error fault ∧ run = Step.fail o fault) ∨
    ∃ ns, List.Forall₂ (fun r n => View.namespaceOf parts language r = .ok n) rs ns ∧
      let all := jobs parts language strict directory source rs ns
      let destinations := ns.map (fun n => destination directory n.filename) ++
        [destination directory language.indexFile]
      ∃ writes last, Job.Wrote all o.files writes last ∧
        writes.map (·.1) = destinations.take writes.length ∧
        (∀ l, run.output.files.contentAt? l = Job.replaced o.files.contentAt? writes l) ∧
        run.output.written = o.written ++ writes.map (·.1) ∧
        (run.result = .ok () ∧ writes.map (·.1) = destinations ∨
          ∃ job fault, all[writes.length]? = some job ∧ run.result = .error fault ∧
            job.Fails last fault) := by
  intro run
  cases named : View.namespaces parts language rs with
  | error fault =>
    obtain ⟨earlier, r, later, whole, ⟨ns, before⟩, failed⟩ := namespacesStop parts language named
    refine .inl ⟨earlier, r, later, ns, fault, whole, namespacesEach parts language before, failed,
      ?_⟩
    simp [run, emit, named]
  | ok ns =>
    refine .inr ⟨ns, namespacesEach parts language named, ?_⟩
    intro all destinations
    have runs := emitRuns parts language strict directory source named o
    have paths := jobPaths parts language strict directory source named
    have output : run.output = (Job.runAll all o).1 := congrArg Prod.fst runs
    have result : run.result = (Job.runAll all o).2 := congrArg Prod.snd runs
    obtain ⟨writes, last, wrote, contents, written, ended⟩ := Job.runAllStops all o
    have taken : writes.map (·.1) = destinations.take writes.length := by
      rw [Job.wrotePaths wrote, List.map_take, paths]
    rw [output, result]
    refine ⟨writes, last, wrote, taken, fun l => ?_, written, ?_⟩
    · rw [contents, Job.wroteContents wrote]
    · rcases ended with ⟨done, full⟩ | stopped
      · refine .inl ⟨done, ?_⟩
        have size : destinations.length = writes.length := by
          rw [full, ← List.length_map (f := Job.path), paths]
        rw [taken, ← size, List.take_length]
      · exact .inr stopped

def titledResource (name title : String) : Resource :=
  ⟨.str name, Node.object [("title", .str title)], []⟩

def plainRun (language : Language) (rs : List Resource) (files : Files := Files.empty) : Step Unit :=
  emit [] language false ⟨"", ["out"]⟩ .bundled rs ⟨files, []⟩

def pets : List Resource := ["Cat", "Dog", "Owl"].map fun s => titledResource s s

def tight : Files where
  roots := []
  breaks _ l s :=
    if l.names = ["out", ".Dog.ts.aaaaaaaa.tmp"] then
      some (.text (String.ofList (s.toList.take 4)), .busy)
    else none

theorem secondBreaksOff :
    let run := plainRun .typescript pets tight
    let first : Path := ⟨"", ["out", "Cat.ts"]⟩
    let cat := titledResource "Cat" "Cat"
    run.result = .error (.file .busy "out/Dog.ts") ∧ run.output.written = [first] ∧
    ∃ n text, View.namespaceOf [] .typescript cat = .ok n ∧
      resourceText [] .typescript false .bundled cat n tight = .ok text ∧
      ∀ l, run.output.files.contentAt? l =
        if l = Files.written first then some (.text text) else none := by
  intro run first cat
  have result : run.result = .error (.file .busy "out/Dog.ts") := by decide +kernel
  have written : run.output.written = [first] := by decide +kernel
  refine ⟨result, written, ?_⟩
  have bare (l : Location) : tight.contentAt? l = none := by
    obtain ⟨o, _ | ⟨_, _ | _⟩⟩ := l <;> rfl
  rcases emitLeavesWholeFiles [] .typescript false ⟨"", ["out"]⟩ .bundled pets ⟨tight, []⟩ with
    ⟨_, _, _, _, fault, _, _, _, stopped⟩ | ⟨ns, each, writes, last, wrote, _, contents, log, _⟩
  · have none : run.output.written = [] := congrArg (·.output.written) stopped
    rw [written] at none
    contradiction
  · have paths : writes.map (·.1) = [first] := log.symm.trans written
    obtain ⟨⟨path, text⟩, rfl, here⟩ := List.map_eq_singleton_iff.mp paths
    cases each with
    | @cons _ n _ _ named _ =>
      cases wrote with
      | next rendered _ _ =>
        refine ⟨n, text, named, rendered, fun l => (contents l).trans ?_⟩
        simp only [Job.replaced, List.foldl_cons, List.foldl_nil, Function.update_apply, bare]
        rw [show Files.written _ = Files.written first from congrArg Files.written here]

end ClientGen.Generate
