import ClientGen.Proofs.Generate.Destinations
import ClientGen.Proofs.Node.Closed
import ClientGen.Proofs.View.Complete

/-! Rendering what has been compiled. Every view holds all that its template asks for, and whatever
the document says about its parts can be laid out, but for a whole number that is too long to be
written. -/
namespace ClientGen.Generate
open Template (render resourceTemplate indexTemplate)
open View (pet)

variable {parts : Parts} {language : Language} {strict : Bool}

theorem titleShown {r : Resource} {className s : String} {v : ResourceView}
    (titled : Titled parts r s)
    (ok : (View.resource parts language strict r className).result = .ok v) :
    v.title = .str s := by
  obtain ⟨title, found, shown⟩ := titled
  rw [View.resourceAbsorbs] at ok
  obtain ⟨os, _, ok, _⟩ := Trail.bindEnds ok
  obtain ⟨_, _, ok, _⟩ := Trail.bindEnds ok
  obtain ⟨_, _, ok, _⟩ := Trail.bindEnds ok
  obtain ⟨title', found', ok, _⟩ := Trail.bindEnds ok
  cases found.symm.trans found'
  cases ok
  obtain ⟨inner, closed⟩ := Parts.closeShown parts title
  rw [shown] at closed
  exact closed

theorem zipNamed {rs : List Resource} {ns : List Namespace}
    (named : View.namespaces parts language rs = .ok ns) {r : Resource} {n : Namespace}
    (member : (r, n) ∈ rs.zip ns) : Named parts language r n :=
  (List.forall₂_iff_zip.mp (namespacesNamed named)).2 member

-- Views that have been compiled render, if and only if no number in them is too long.
theorem viewsRender (parts : Parts) (language : Language) {rs : List Resource}
    {ns : List Namespace} (named : View.namespaces parts language rs = .ok ns) :
    (∃ text, render (indexTemplate language) (indexVariables ns) = .ok text) ∧
    ∀ r n, (r, n) ∈ rs.zip ns → ∀ strict v,
      (View.resource parts language strict r n.className).result = .ok v →
      ((∀ d ∈ v.documented language, d.writable = true) →
        ∃ text, render (resourceTemplate language) v.scope = .ok text) ∧
      ((∃ d ∈ v.documented language, d.writable = false) →
        render (resourceTemplate language) v.scope = .error .longInteger) := by
  refine ⟨Template.Prints.indexRenders language ns, fun r n member strict v ok => ?_⟩
  obtain ⟨⟨s, titled, _⟩, _⟩ := zipNamed named member
  have complete := View.resourceComplete ok
  have title : ∃ s, v.title = .str s := ⟨s, titleShown titled ok⟩
  refine ⟨fun can => ⟨_, ResourceView.rendered complete title can⟩, ?_⟩
  rintro ⟨d, shown, long⟩
  exact ResourceView.notRendered complete title shown long

theorem petRenders : ∃ v,
    (View.resource [] .python true (pet (.list [.null, .int 7])) "PetContext").result = .ok v ∧
    ∃ text, render (resourceTemplate .python) v.scope = .ok text := by
  have named : ∃ n, View.namespaces [] .python [pet (.list [.null, .int 7])] = .ok [n] ∧
    n.className = "PetContext" := ⟨_, rfl, rfl⟩
  have compiled : ∃ v, (View.resource [] .python true (pet (.list [.null, .int 7]))
      "PetContext").result = .ok v ∧ ∀ d ∈ v.documented .python, d.writable = true :=
    ⟨_, rfl, by decide +kernel⟩
  obtain ⟨n, named, className⟩ := named
  obtain ⟨v, compiled, short⟩ := compiled
  have renders := (viewsRender [] .python named).2 (pet (.list [.null, .int 7])) n (by simp) true v
  rw [className] at renders
  exact ⟨v, compiled, (renders compiled).1 short⟩

def longNumber : Int := .ofNat (Nat.pow 10 4300)

-- A number is said that no text is made of.
theorem petTooLong : ∃ n v,
    View.namespaces [] .typescript [pet (.int longNumber)] = .ok [n] ∧
    (View.resource [] .typescript true (pet (.int longNumber)) n.className).result = .ok v ∧
    ¬ ∃ text, render (resourceTemplate .typescript) v.scope = .ok text := by
  have compiled : ∃ n v, View.namespaces [] .typescript [pet (.int longNumber)] = .ok [n] ∧
      (View.resource [] .typescript true (pet (.int longNumber)) n.className).result = .ok v ∧
      v.title = .str "Pet" ∧ .int longNumber ∈ v.documented .typescript :=
    ⟨_, _, rfl, rfl, rfl, List.mem_cons_self⟩
  obtain ⟨n, v, named, compiled, titled, member⟩ := compiled
  have long : (Node.int longNumber).writable = false := by decide +kernel
  refine ⟨n, v, named, compiled, ?_⟩
  rw [ResourceView.notRendered (View.resourceComplete compiled) ⟨_, titled⟩ member long]
  rintro ⟨_, ⟨⟩⟩

end ClientGen.Generate
