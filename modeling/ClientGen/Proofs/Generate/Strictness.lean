import ClientGen.Generate
import ClientGen.Proofs.Template.Ordinary
import ClientGen.Proofs.View.Strictness

/-! A strict run beside the same run when it is not strict. They are the same run until a definition
replaces a different one. There the strict run ends, and it has written what the other has written
by then; the other only reports. -/
namespace ClientGen

def Event.isRedefinition : Event → Bool
  | .redefined _ => true
  | _ => false

namespace Step

variable {α β : Type}

def firstRedefinition? (s : Step α) : Option Output :=
  (s.log.find? (·.1.isRedefinition)).map (·.2)

theorem firstRedefinitionAt {name : String} {stop output : Output}
    {before after : List (Event × Output)} {result : Except Fault α}
    (quiet : ∀ other, Event.redefined other ∉ before.map Prod.fst) :
    firstRedefinition? ⟨before ++ (.redefined name, stop) :: after, output, result⟩ =
      some stop := by
  have silent : before.find? (·.1.isRedefinition) = none := by
    rw [List.find?_eq_none]
    intro e member found
    obtain ⟨event, state⟩ := e
    cases event with
    | redefined other => exact quiet other (List.mem_map_of_mem member)
    | _ => cases found
  rw [firstRedefinition?, List.find?_append, silent]
  rfl

inductive Stricter : Step α → Step α → Prop
  | same {s} (quiet : ∀ name, Event.redefined name ∉ s.events) : Stricter s s
  | refused {name stop before after output result}
      (quiet : ∀ other, Event.redefined other ∉ before.map Prod.fst) :
      Stricter ⟨before, stop, .error (.typeCollision name)⟩
        ⟨before ++ (.redefined name, stop) :: after, output, result⟩

theorem ofReportStricter (o : Output) {s t : Report α} (stricter : Trail.Stricter s t) :
    Stricter (ofReport o s) (ofReport o t) := by
  cases stricter with
  | same quiet => exact .same (by simpa [events, ofReport] using quiet)
  | refused quiet =>
    simp only [ofReport, List.map_append, List.map_cons]
    exact .refused (by simpa using quiet)

theorem andThenStricter {s t : Step α} (first : Stricter s t) {f g : Output → α → Step β}
    (next : ∀ o a, Stricter (f o a) (g o a)) : Stricter (s.andThen f) (t.andThen g) := by
  cases first with
  | same quiet =>
    unfold andThen
    cases s.result with
    | error fault => exact .same quiet
    | ok a =>
      have last := next s.output a
      simp only
      generalize f s.output a = s' at last
      generalize g s.output a = t' at last
      cases last with
      | same quiet' =>
        refine .same fun name member => ?_
        rw [events, List.map_append] at member
        exact (List.mem_append.mp member).elim (quiet name) (quiet' name)
      | refused quiet' =>
        simp only [← List.append_assoc]
        refine .refused fun other member => ?_
        rw [List.map_append] at member
        exact (List.mem_append.mp member).elim (quiet other) (quiet' other)
  | @refused name stop before after output result quiet =>
    unfold andThen
    cases result with
    | error fault => exact .refused quiet
    | ok a =>
      simp only [List.append_assoc, List.cons_append]
      exact .refused quiet

theorem andThenOrdinary {s : Step α} {f : Output → α → Step β} (first : Ordinary s.result)
    (next : ∀ o a, Ordinary (f o a).result) : Ordinary (s.andThen f).result := by
  unfold andThen
  cases ended : s.result with
  | error fault =>
    rw [ended] at first
    simpa using first
  | ok a => exact next s.output a

end Step

namespace Files

theorem readTextOrdinary (f : Files) (p : Path) : Ordinary (f.readText p) := by
  unfold readText
  split
  · simp
  · split <;> simp

theorem writeTextOrdinary (f : Files) (p : Path) (s : String) : Ordinary (f.writeText p s).2 := by
  unfold writeText writeVia
  repeat' split
  all_goals simp

end Files

namespace Generate

variable (parts : Parts) (language : Language) (directory : Path) (source : TemplateSource)

theorem writeQuiet (bundled : List Template.Piece) (name destination : String)
    (scope : Template.Scope) (o : Output) (other : String) :
    Event.redefined other ∉
      (write directory source bundled name destination scope o).events := by
  unfold write
  split
  · simp [Step.fail, Step.events]
  · dsimp only
    split <;> simp [Step.fail, Step.events]

theorem writeResourceStricter (r : Resource) (n : Namespace) (o : Output) :
    Step.Stricter (writeResource parts language true directory source r n o)
      (writeResource parts language false directory source r n o) := by
  refine Step.andThenStricter ?_ fun o view => .same (writeQuiet _ _ _ _ _ _ _)
  exact Step.ofReportStricter o (View.resourceStricter parts language r n.className)

theorem writeResourcesStricter (es : List (Resource × Namespace)) (o : Output) :
    Step.Stricter (writeResources parts language true directory source es o)
      (writeResources parts language false directory source es o) := by
  induction es generalizing o with
  | nil => exact .same (by simp [writeResources, Step.done, Step.events])
  | cons e rest ih =>
    exact Step.andThenStricter (writeResourceStricter parts language directory source e.1 e.2 o)
      fun o _ => ih o

theorem emitStricter (rs : List Resource) (o : Output) :
    Step.Stricter (emit parts language true directory source rs o)
      (emit parts language false directory source rs o) := by
  unfold emit
  cases View.namespaces parts language rs with
  | error fault => exact .same (by simp [Step.fail, Step.events])
  | ok ns =>
    exact Step.andThenStricter (writeResourcesStricter parts language directory source _ o)
      fun o _ => .same (writeQuiet _ _ _ _ _ _ _)

theorem templateOrdinary (bundled : List Template.Piece) (name : String) (files : Files) :
    Ordinary (template source bundled name files) := by
  cases source <;> simp [template, Files.readTextOrdinary]

theorem writeOrdinary (bundled : List Template.Piece) (name destination : String)
    (scope : Template.Scope) (o : Output) :
    Ordinary (write directory source bundled name destination scope o).result := by
  have text : Ordinary (do Template.render (← template source bundled name o.files) scope) := by
    simp [templateOrdinary]
  unfold write
  split
  · rename_i failed
    rw [failed] at text
    simpa [Step.fail] using text
  · rename_i text _
    have placed := o.files.writeTextOrdinary (directory.append (Path.parse destination)) text
    dsimp only
    split
    · rename_i failed
      rw [failed] at placed
      simpa [Step.fail] using placed
    · simp

theorem resourceOrdinary (r : Resource) (className : String) :
    Ordinary (View.resource parts language false r className).result := by
  rw [View.resourceAbsorbs, Trail.bindOrdinary]
  refine ⟨?_, fun os _ => View.finishOrdinary parts language r className _ os⟩
  simp only [Registry.absorb, @Registry.addAllLax (Registry.empty false) rfl]
  exact View.compiledOperationsOrdinary parts language r

theorem writeResourcesOrdinary (es : List (Resource × Namespace)) (o : Output) :
    Ordinary (writeResources parts language false directory source es o).result := by
  induction es generalizing o with
  | nil => simp [writeResources, Step.done]
  | cons e rest ih =>
    refine Step.andThenOrdinary (Step.andThenOrdinary ?_ fun o view => ?_) fun o _ => ih o
    · exact resourceOrdinary parts language e.1 e.2.className
    · exact writeOrdinary directory source _ _ _ _ o

theorem emitOrdinary (rs : List Resource) (o : Output) :
    Ordinary (emit parts language false directory source rs o).result := by
  unfold emit
  have named := View.namespacesOrdinary parts language rs
  cases spaces : View.namespaces parts language rs with
  | error fault =>
    rw [spaces] at named
    simpa [Step.fail] using named
  | ok ns =>
    exact Step.andThenOrdinary (writeResourcesOrdinary parts language directory source _ o)
      fun o _ => writeOrdinary directory source _ _ _ _ o

theorem strictRefinesLax (rs : List Resource) (o : Output) :
    let strict := emit parts language true directory source rs o
    let lax := emit parts language false directory source rs o
    ((∃ name, strict.result = .error (.typeCollision name)) ↔
      ∃ name, .redefined name ∈ lax.events) ∧
    (∀ name, .redefined name ∈ lax.events → lax.firstRedefinition? = some strict.output) ∧
    ((∀ name, .redefined name ∉ lax.events) → strict = lax) := by
  have stricter := emitStricter parts language directory source rs o
  have ordinary := emitOrdinary parts language directory source rs o
  generalize emit parts language true directory source rs o = strict at stricter
  generalize emit parts language false directory source rs o = lax at stricter ordinary
  cases stricter with
  | same quiet =>
    refine ⟨⟨fun ⟨name, refused⟩ => ?_, fun ⟨name, member⟩ => ?_⟩, fun name member => ?_,
      fun _ => rfl⟩
    · exact absurd refused (ordinary name)
    · exact absurd member (quiet name)
    · exact absurd member (quiet name)
  | @refused name stop before after output result quiet =>
    have there : Event.redefined name ∈
        (⟨before ++ (.redefined name, stop) :: after, output, result⟩ : Step Unit).events := by
      simp [Step.events]
    refine ⟨⟨fun _ => ⟨name, there⟩, fun _ => ⟨name, rfl⟩⟩, fun _ _ => ?_,
      fun silent => absurd there (silent name)⟩
    exact Step.firstRedefinitionAt quiet

end Generate
end ClientGen
