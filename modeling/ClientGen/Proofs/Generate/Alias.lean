import ClientGen.Generate
import ClientGen.Proofs.View.Alias
import ClientGen.Proofs.View.Capture

/-! The alias for the imported type in the file of a resource. The template defines it in a branch,
and only there, for a view that says that it uses the type. So a resource that passes no schema over
gets the file that the template without this branch renders to, unless a type that it refers to has
the spelling of the imported type in its name. -/
namespace ClientGen

namespace Template

mutual
def Expr.texts : Expr → List String
  | .name _ => []
  | .constant value => [value.plainText]
  | .attribute of _ => of.texts
  | .element of index => of.texts ++ index.texts
  | .either a b => a.texts ++ b.texts
  | .both a b => a.texts ++ b.texts
  | .negation a => a.texts
  | .choice test yes no => test.texts ++ yes.texts ++ no.texts
  | .condition test yes _ => test.texts ++ yes.texts
  | .filtered value _ arguments _ => value.texts ++ Expr.textsOf arguments
termination_by structural e => e
def Expr.textsOf : List Expr → List String
  | [] => []
  | e :: rest => e.texts ++ Expr.textsOf rest
termination_by structural es => es
end

mutual
def Piece.texts : Piece → List String
  | .text s => [s]
  | .shown e => e.texts
  | .branch test yes no => test.texts ++ Piece.textsOf yes ++ Piece.textsOf no
  | .loop _ range body otherwise => range.texts ++ Piece.textsOf body ++ Piece.textsOf otherwise
termination_by structural p => p
def Piece.textsOf : List Piece → List String
  | [] => []
  | p :: rest => p.texts ++ Piece.textsOf rest
termination_by structural ps => ps
end

def Piece.definesAlias : Piece → Bool
  | .branch (.name "uses_imported") _ [] => true
  | _ => false

def withoutAlias (language : Language) : List Piece :=
  (resourceTemplate language).filter fun p => !p.definesAlias

theorem withoutAliasTexts (language : Language) :
    ∀ s ∈ Piece.textsOf (withoutAlias language),
      View.mentions language.dialect.imported s = false := by
  cases language <;> decide +kernel

theorem renderSkips {skip : Piece → Bool} {ps : List Piece} {frame : Frame}
    (silent : ∀ p ∈ ps, skip p = true → p.render frame = .ok []) :
    Piece.renderList frame (ps.filter fun p => !skip p) = Piece.renderList frame ps := by
  induction ps with
  | nil => rfl
  | cons p rest ih =>
    obtain ⟨here, later⟩ := List.forall_mem_cons.mp silent
    cases skipped : skip p with
    | true =>
      rw [List.filter_cons_of_neg (by simp [skipped]), ih later, Piece.renderList, here skipped]
      cases Piece.renderList frame rest <;> rfl
    | false =>
      rw [List.filter_cons_of_pos (by simp [skipped]), Piece.renderList, Piece.renderList, ih later]

theorem aliasSilent {v : ResourceView} (unused : v.usesImported = false) {p : Piece}
    (defines : p.definesAlias = true) :
    p.render (v.scope.map fun e => (e.1, .known e.2)) = .ok [] := by
  unfold Piece.definesAlias at defines
  split at defines
  · have bound : Expr.eval (v.scope.map fun e => (e.1, .known e.2)) (.name "uses_imported") =
        .ok (.known (.bool false)) := by rw [← unused]; rfl
    rw [Piece.render, bound]
    rfl
  · cases defines

theorem renderWithoutAlias (language : Language) {v : ResourceView}
    (unused : v.usesImported = false) :
    render (withoutAlias language) v.scope = render (resourceTemplate language) v.scope := by
  unfold render withoutAlias
  rw [renderSkips fun p _ => aliasSilent unused]

end Template

namespace Generate
open Template View

variable {parts : Parts} {language : Language} {strict : Bool} {r : Resource} {n : Namespace}
  {view : ResourceView}

theorem writeAlike {ps ps' : List Piece} {scope : Scope}
    (same : render ps scope = render ps' scope) (directory : Path) (name destination : String)
    (o : Output) : write directory .bundled ps name destination scope o =
      write directory .bundled ps' name destination scope o := by
  have rendered (ps : List Piece) :
      (do Template.render (← template .bundled ps name o.files) scope) = render ps scope := rfl
  simp only [write, rendered, same]

theorem writtenWithoutAlias
    (ok : (View.resource parts language strict r n.className).result = .ok view)
    (unused : view.usesImported = false) (directory : Path) (o : Output) :
    writeResource parts language strict directory .bundled r n o =
      (Step.ofReport o (View.resource parts language strict r n.className)).andThen fun o view =>
        write directory .bundled (withoutAlias language) language.resourceTemplate n.filename
          view.scope o := by
  simp only [writeResource, Step.andThen, Step.ofReport, ok,
    writeAlike (renderWithoutAlias language unused)]

-- The flag is not raised without a cause, and a name that looks like the imported type is one.
theorem aliasWarranted
    (ok : (View.resource parts language strict r n.className).result = .ok view) :
    (view.usesImported = true →
      PassesOver parts r ∨ Lookalike language (registry parts language strict r) view) ∧
    (Lookalike language (registry parts language strict r) view → view.usesImported = true) ∧
    (¬ PassesOver parts r → ¬ Lookalike language (registry parts language strict r) view →
      (∀ directory o, writeResource parts language strict directory .bundled r n o =
        (Step.ofReport o (View.resource parts language strict r n.className)).andThen
          fun o view => write directory .bundled (withoutAlias language)
            language.resourceTemplate n.filename view.scope o) ∧
      ∀ s ∈ Piece.textsOf (withoutAlias language),
        mentions language.dialect.imported s = false) := by
  refine ⟨importedFrom ok, lookalikeMentioned ok, fun own plain => ?_⟩
  have unused : view.usesImported = false := by
    rw [Bool.eq_false_iff]
    exact fun uses => (importedFrom ok uses).elim own plain
  exact ⟨writtenWithoutAlias ok unused, withoutAliasTexts language⟩

theorem collaredOpen (title : String) : ¬ PassesOver [] (collared title) := by
  rintro ⟨c, s, start, meets⟩
  cases start with
  | operation member => cases member
  | own =>
    obtain ⟨property, member, _, meets⟩ := Compile.ownMeets rfl rfl rfl rfl meets
    simp only [Node.object, List.map_cons, List.map_nil, List.mem_cons, List.not_mem_nil,
      or_false] at member
    obtain rfl | rfl := member
    · exact Compile.leafMeetsNone (by rintro ⟨⟩) (by rintro ⟨⟩) meets
    · obtain ⟨_, inside, _⟩ := Compile.ownMeets rfl rfl rfl rfl meets
      cases inside

theorem unlikeNames {registry : Registry}
    (unlike : ∀ s ∈ view.types.map (·.name), mentions language.dialect.imported s = false) :
    ¬ Lookalike language registry view := by
  rintro ⟨_, name, known, mentioned, _⟩
  rw [unlike name known] at mentioned
  cases mentioned

theorem collaredWarranted :
    (∃ n view, namespaceOf [] .python (collared "Red Collar") = .ok n ∧
      (View.resource [] .python true (collared "Red Collar") n.className).result = .ok view ∧
      view.usesImported = false ∧
      ∀ directory o, writeResource [] .python true directory .bundled (collared "Red Collar") n o =
        (Step.ofReport o (View.resource [] .python true (collared "Red Collar")
          n.className)).andThen fun o view =>
            write directory .bundled (withoutAlias .python) "resource.py.j2" n.filename
              view.scope o) ∧
    ∃ n view, namespaceOf [] .typescript shelf = .ok n ∧
      (View.resource [] .typescript true shelf n.className).result = .ok view ∧
      view.usesImported = true ∧ PassesOver [] shelf := by
  have pet : ∃ n, namespaceOf [] .python (collared "Red Collar") = .ok n ∧
      n.className = "PetContext" := ⟨_, rfl, rfl⟩
  have petView : ∃ view,
      (View.resource [] .python true (collared "Red Collar") "PetContext").result = .ok view ∧
      view.types.map (·.name) = ["RedCollar", "Pet"] ∧ view.usesImported = false :=
    ⟨_, rfl, rfl, rfl⟩
  have rows : ∃ n, namespaceOf [] .typescript shelf = .ok n ∧ n.className = "shelfContext" :=
    ⟨_, rfl, rfl⟩
  have rowsView : ∃ view, (View.resource [] .typescript true shelf "shelfContext").result = .ok view ∧
      view.types.map (·.name) = ["shelf"] ∧ view.usesImported = true := ⟨_, rfl, rfl, rfl⟩
  obtain ⟨n, named, className⟩ := pet
  obtain ⟨view, ok, names, unused⟩ := petView
  obtain ⟨n', named', className'⟩ := rows
  obtain ⟨view', ok', names', uses⟩ := rowsView
  rw [← className] at ok
  rw [← className'] at ok'
  refine ⟨⟨n, view, named, ok, unused, ?_⟩, n', view', named', ok', uses, ?_⟩
  · have unlike : ¬ Lookalike .python (registry [] .python true (collared "Red Collar")) view :=
      unlikeNames (by rw [names]; decide)
    exact ((aliasWarranted ok).2.2 (collaredOpen _) unlike).1
  · exact ((aliasWarranted ok').1 uses).resolve_right (unlikeNames (by rw [names']; decide))

-- Nothing is foreign here, but the title of the collar begins like the imported type.
theorem collaredAliased :
    ¬ PassesOver [] (collared "Imported Type Collar") ∧
    (∃ view, (View.resource [] .typescript true (collared "Imported Type Collar")
        "PetContext").result = .ok view ∧ view.usesImported = true) ∧
    ∃ view, (View.resource [] .python true (collared "Imported Type Collar")
        "PetContext").result = .ok view ∧ view.usesImported = true :=
  ⟨collaredOpen _, ⟨_, rfl, rfl⟩, _, rfl, rfl⟩

end Generate
end ClientGen
