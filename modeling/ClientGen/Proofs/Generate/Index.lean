import ClientGen.Grouping
import ClientGen.Proofs.Generate.OwnFiles
import ClientGen.Proofs.View.Passages

/-! What the index exposes. Its file has a row for the class of every resource and an entry for every
resource in one table. A key that is entered again leads to the later entry, and a class that comes in
again is the later class; so every resource is exposed under its own key exactly if both the keys and
the classes are distinct. Names and titles do not see to that: two of them may come to one. -/
namespace ClientGen.Generate
open Template (Wording)

variable {parts : Parts} {language : Language}

structure Exposed (parts : Parts) (r : Resource) (n : Namespace) : Prop where
  key : ∃ s, r.name = .str s ∧ n.key = String.ofList (Naming.namespaceKey s.toList)
  className : ∃ s, Titled parts r s ∧
    n.className = String.ofList (Naming.typeName s.toList ++ "Context".toList)

theorem namespaceExposed {r : Resource} {n : Namespace}
    (ok : View.namespaceOf parts language r = .ok n) : Exposed parts r n := by
  unfold View.namespaceOf at ok
  split at ok
  · rename_i s named
    obtain ⟨key, entered, ok⟩ := Fault.bindOk ok
    obtain rfl := Except.ok.inj entered
    obtain ⟨module, _, ok⟩ := Fault.bindOk ok
    obtain ⟨className, found, ok⟩ := Fault.bindOk ok
    cases ok
    obtain ⟨base, titled, found⟩ := Fault.bindOk found
    cases found
    obtain ⟨t, shown, rfl⟩ := baseNameTitled titled
    exact ⟨⟨s, named, rfl⟩, t, shown, rfl⟩
  · contradiction

theorem namespacesExposed {rs : List Resource} {ns : List Namespace}
    (ok : View.namespaces parts language rs = .ok ns) : List.Forall₂ (Exposed parts) rs ns := by
  exact (namespacesEach parts language ok).imp fun _ _ => namespaceExposed

def lastPlace? {α : Type} (test : α → Bool) : List α → Option Nat
  | [] => none
  | a :: rest =>
    match lastPlace? test rest with
    | some i => some (i + 1)
    | none => if test a then some 0 else none

theorem lastPlaceSome {α : Type} {test : α → Bool} {as : List α} {i : Nat}
    (found : lastPlace? test as = some i) : ∃ a, as[i]? = some a ∧ test a = true := by
  induction as generalizing i with
  | nil => cases found
  | cons a rest ih =>
    simp only [lastPlace?] at found
    split at found
    · rename_i j later
      cases found
      exact ih later
    · split at found
      · cases found
        exact ⟨a, rfl, by assumption⟩
      · contradiction

theorem lastPlaceThere {α : Type} {test : α → Bool} {as : List α} {a : α} (member : a ∈ as)
    (passes : test a = true) : ∃ i, lastPlace? test as = some i := by
  induction as with
  | nil => cases member
  | cons first rest ih =>
    simp only [lastPlace?]
    split
    · exact ⟨_, rfl⟩
    · rename_i none
      rcases List.mem_cons.mp member with rfl | later
      · exact ⟨0, by simp [passes]⟩
      · obtain ⟨i, found⟩ := ih later
        simp [none] at found

theorem labelsApart {α : Type} {label : α → String} {as : List α} (find : String → Option Nat)
    (own : ∀ i a, as[i]? = some a → find (label a) = some i) : (as.map label).Nodup := by
  refine List.nodup_iff_injective_get.mpr fun i j same => Fin.ext ?_
  have left := own i.1 _ (List.getElem?_eq_getElem (by simpa using i.2))
  have right := own j.1 _ (List.getElem?_eq_getElem (by simpa using j.2))
  simp only [List.get_eq_getElem, List.getElem_map] at same
  rw [same, right] at left
  exact (Option.some.inj left).symm

theorem lastPlaceOwn {α : Type} (label : α → String) (as : List α) :
    (∀ i a, as[i]? = some a → lastPlace? (fun b => label b == label a) as = some i) ↔
      (as.map label).Nodup := by
  constructor
  · intro own
    exact labelsApart (fun name => lastPlace? (fun b => label b == name) as) own
  · intro apart i a here
    have member : a ∈ as := List.mem_of_getElem? here
    obtain ⟨j, found⟩ : ∃ j, lastPlace? (fun b => label b == label a) as = some j :=
      lastPlaceThere member (beq_self_eq_true _)
    obtain ⟨b, there, same⟩ := lastPlaceSome found
    have bound : i < (as.map label).length := by
      simpa using (List.getElem?_eq_some_iff.mp here).1
    have labels : (as.map label)[i]? = (as.map label)[j]? := by
      simp only [List.getElem?_map, here, there, Option.map_some, beq_iff_eq.mp same]
    rw [found, List.getElem?_inj bound apart |>.mp labels]

def leads (ns : List Namespace) (key : String) : Option Nat := do
  let i ← lastPlace? (fun n => n.key == key) ns
  let entry ← ns[i]?
  lastPlace? (fun n => n.className == entry.className) ns

theorem leadsBack (ns : List Namespace) :
    (∀ i n, ns[i]? = some n → leads ns n.key = some i) ↔
      (ns.map (·.key)).Nodup ∧ (ns.map (·.className)).Nodup := by
  constructor
  · intro back
    have keys : (ns.map (·.key)).Nodup := labelsApart (leads ns) back
    refine ⟨keys, (lastPlaceOwn _ ns).mp fun i n here => ?_⟩
    have through := back i n here
    rw [leads, (lastPlaceOwn _ ns).mpr keys i n here] at through
    simpa [here] using through
  · rintro ⟨keys, classes⟩ i n here
    rw [leads, (lastPlaceOwn _ ns).mpr keys i n here]
    simpa [here] using (lastPlaceOwn _ ns).mpr classes i n here

variable {strict : Bool} {directory : Path}

theorem indexStands {rs : List Resource} {ns : List Namespace} {o : Output}
    (named : View.namespaces parts language rs = .ok ns)
    (done : (emit parts language strict directory .bundled rs o).result = .ok ()) :
    (emit parts language strict directory .bundled rs o).output.files.contentAt?
        (Files.written (destination directory language.indexFile)) =
      some (.text (String.ofList ((indexWordings language ns).flatMap Wording.text))) := by
  have runs := emitRuns parts language strict directory .bundled named o
  rw [jobs, writeResourcesRun] at runs
  have output := congrArg Prod.fst runs
  have result := congrArg Prod.snd runs
  dsimp only at output result
  rw [result] at done
  rw [output]
  cases front : (writeResources parts language strict directory .bundled (rs.zip ns) o).result with
  | error fault => simp [front] at done
  | ok _ =>
    rw [front] at done
    obtain ⟨text, rendered, stands⟩ :=
      Job.runAllStands done fun other member => (List.not_mem_nil member).elim
    have shown : (indexJob language directory .bundled ns).text
        (writeResources parts language strict directory .bundled (rs.zip ns) o).output.files =
          .ok (String.ofList ((indexWordings language ns).flatMap Wording.text)) :=
      Template.Prints.indexRendered language ns
    cases rendered.symm.trans shown
    exact stands

-- Every resource has its row in the index; each is exposed under its key, and the entries are as many
-- as the resources, exactly if the keys and the classes are distinct.
theorem indexExposes {rs : List Resource} {ns : List Namespace} {o : Output}
    (named : View.namespaces parts language rs = .ok ns)
    (done : (emit parts language strict directory .bundled rs o).result = .ok ()) :
    (emit parts language strict directory .bundled rs o).output.files.contentAt?
        (Files.written (destination directory language.indexFile)) =
      some (.text (String.ofList ((indexWordings language ns).flatMap Wording.text))) ∧
    List.Forall₂ (Exposed parts) rs ns ∧
    ((ns.map (·.key)).toFinset.card = rs.length ↔ (ns.map (·.key)).Nodup) ∧
    ((∀ i n, ns[i]? = some n → leads ns n.key = some i) ↔
      (ns.map (·.key)).Nodup ∧ (ns.map (·.className)).Nodup) := by
  have size : (ns.map (·.key)).length = rs.length := by
    simp [namespacesLength parts language named]
  refine ⟨indexStands named done, namespacesExposed named, ?_, leadsBack ns⟩
  rw [← size]
  exact Multiset.toFinset_card_eq_card_iff_nodup

theorem clinicsExposed : ∃ ns, View.namespaces [] .python clinics = .ok ns ∧
    (plainRun .python clinics).result = .ok () ∧
    (ns.map (·.key)).toFinset.card = 2 ∧ ∀ i n, ns[i]? = some n → leads ns n.key = some i := by
  have named : ∃ ns, View.namespaces [] .python clinics = .ok ns ∧
      ns.map (·.key) = ["care_team", "clinic"] ∧
      ns.map (·.className) = ["CareTeamContext", "ClinicContext"] := ⟨_, rfl, rfl, rfl⟩
  obtain ⟨ns, named, keys, classes⟩ := named
  have done : (plainRun .python clinics).result = .ok () := by decide +kernel
  unfold plainRun at done ⊢
  obtain ⟨_, _, count, leads⟩ := indexExposes named done
  rw [keys] at count
  rw [keys, classes] at leads
  exact ⟨ns, named, done, by rw [keys]; exact count.mpr (by decide), leads.mpr (by decide)⟩

def returning (name : String) : Node :=
  Node.object [("get", Node.object [("responses", Node.object [("default", Node.object
    [("content", Node.object [("application/json", Node.object [("schema",
      Node.object [(originKey, .str name)])])])])])])]

def careTeams : Document := .plain (Node.object [
  ("paths", Node.object [("/teams", returning "CareTeam"), ("/groups", returning "care_team")]),
  ("components", Node.object [("schemas", Node.object [
    ("CareTeam", Node.object [("title", .str "Care Team")]),
    ("care_team", Node.object [("title", .str "Care Group")])])])])

theorem careTeamsCollide : ∃ rs, (Grouping.build careTeams none).result = .ok rs ∧
    rs.map (·.name) = [.str "CareTeam", .str "care_team"] ∧
    ∀ language, ∃ ns, View.namespaces careTeams.parts language rs = .ok ns ∧
      (emit careTeams.parts language false ⟨"", ["out"]⟩ .bundled rs
        ⟨Files.empty, []⟩).result = .ok () ∧
      ¬ (ns.map (·.key)).Nodup ∧ (ns.map (·.key)).toFinset.card = 1 ∧
      leads ns "care_team" = some 1 := by
  have built : ∃ rs, (Grouping.build careTeams none).result = .ok rs ∧
      rs.map (·.name) = [.str "CareTeam", .str "care_team"] ∧
      ∀ language, ∃ ns, View.namespaces careTeams.parts language rs = .ok ns ∧
        ns.map (·.key) = ["care_team", "care_team"] ∧ leads ns "care_team" = some 1 ∧
        (emit careTeams.parts language false ⟨"", ["out"]⟩ .bundled rs
          ⟨Files.empty, []⟩).result = .ok () := by
    refine ⟨_, rfl, rfl, fun language => ?_⟩
    cases language <;> exact ⟨_, rfl, rfl, rfl, by decide +kernel⟩
  obtain ⟨rs, built, names, each⟩ := built
  refine ⟨rs, built, names, fun language => ?_⟩
  obtain ⟨ns, named, keys, leads, done⟩ := each language
  exact ⟨ns, named, done, by rw [keys]; decide, by rw [keys]; decide, leads⟩

end ClientGen.Generate
