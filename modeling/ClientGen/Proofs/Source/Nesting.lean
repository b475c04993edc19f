import ClientGen.Source
import ClientGen.Proofs.Json.Nesting
import ClientGen.Proofs.Yaml.Nesting

/-! What the limits of a runtime do to loading. They may end it, and they do nothing else. -/
namespace ClientGen

namespace Node

def TooDeep (fault : Fault) : Prop := fault = .endless

theorem enterCurbed (levels : Levels) :
    Curbed TooDeep (fun _ => none) (enter levels) (enter none) := by
  unfold enter
  split
  · exact .ok _
  · exact .stopped rfl

mutual
theorem spellKeysCurbed :
    (n : Node) → ∀ levels, Curbed TooDeep id (n.spellKeys levels) n.spellKeys
  | .map entries, levels => (enterCurbed levels).bind fun inner =>
    (entriesCurbed entries inner).bind fun _ => .same _
  | .list items, levels => (enterCurbed levels).bind fun inner =>
    (itemsCurbed items inner).bind fun _ => .same _
  | .enclosing _, _ => .same _
  | .null, _ | .bool _, _ | .int _, _ | .float _, _ | .str _, _ | .bytes _, _ | .date _, _
  | .datetime _, _ | .set _, _ | .pair _ _, _ | .link _, _ => .same _
theorem itemsCurbed : (items : List Node) →
    ∀ levels, Curbed TooDeep id (spellKeysList items levels) (spellKeysList items none)
  | [], _ => .same _
  | n :: rest, levels => (spellKeysCurbed n levels).bind fun _ =>
    (itemsCurbed rest levels).bind fun _ => .same _
theorem entriesCurbed : (entries : List (Node × Node)) →
    ∀ levels, Curbed TooDeep id (spellKeysEntries entries levels) (spellKeysEntries entries none)
  | [], _ => .same _
  | (k, v) :: rest, levels => Curbed.bind (.same (spelledKey k)) fun _ =>
    (spellKeysCurbed v levels).bind fun _ => (entriesCurbed rest levels).bind fun _ => .same _
end

end Node

def Runtime.roomy (runtime : Runtime) : Runtime := { sets := runtime.sets }

namespace Source

variable {w : World} {source s : String} {runtime : Runtime}

theorem readJsonCurbed :
    Curbed Node.TooDeep id (readJson s source runtime) (readJson s source runtime.roomy) := by
  unfold readJson
  rcases (Json.documentCurbed s.toList (runtime.json s)).alternatives with same | stopped
  · rw [same]
    exact .same _
  · obtain ⟨⟨problem, position⟩, stopped, deep⟩ := stopped
    cases deep
    rw [stopped]
    exact .stopped rfl

theorem readYamlCurbed :
    Curbed Node.TooDeep id (readYaml s source runtime) (readYaml s source runtime.roomy) := by
  have room : runtime.roomy.yaml s = none := rfl
  have order : runtime.roomy.sets = runtime.sets := rfl
  unfold readYaml
  rw [room, order]
  rcases (Yaml.readCurbed s.toList (runtime.yaml s) runtime.sets).alternatives with same | stopped
  · rw [same]
    cases Yaml.read s.toList none runtime.sets with
    | error failure => cases failure <;> exact .same _
    | ok n =>
      dsimp only
      rcases (n.spellKeysCurbed (runtime.keys n)).alternatives with same | ⟨fault, stopped, deep⟩
      · rw [same]
        exact .same _
      · cases deep
        rw [stopped]
        exact .stopped rfl
  · obtain ⟨failure, stopped, deep⟩ := stopped
    cases deep
    rw [stopped]
    exact .stopped rfl

theorem parseCurbed :
    Curbed Node.TooDeep id (parse s source runtime) (parse s source runtime.roomy) := by
  unfold parse
  exact .jump (.branch readYamlCurbed readJsonCurbed) fun n => .same _

theorem loadCurbed (w : World) (source : String) (runtime : Runtime) :
    (load w source runtime).2 = (load w source runtime.roomy).2 ∨
      (load w source runtime).2 = .error .endless := by
  have curbed : Curbed Node.TooDeep id (load w source runtime).2 (load w source runtime.roomy).2 :=
    Curbed.bind (.same (text w source).2) fun _ => parseCurbed
  rcases curbed.alternatives with same | ⟨fault, stopped, deep⟩
  · exact .inl same
  · cases deep
    exact .inr stopped

end Source
end ClientGen
