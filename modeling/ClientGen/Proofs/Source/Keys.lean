import ClientGen.Proofs.Node.KeySpelling
import ClientGen.Proofs.Source.Loading
import ClientGen.Proofs.Yaml.Formed

/-! The keys of a document that was read from YAML. They are texts throughout, in all maps but those
that lie in the pairs of a sequence. -/
namespace ClientGen.Source

theorem yamlSpelled {s source : String} {runtime : Runtime} {n : Node}
    (yaml : isYaml source = true) (ok : parse s source runtime = .ok n) :
    ∃ original, Yaml.read s.toList (runtime.yaml s) runtime.sets = .ok original ∧
      original.spellKeys (runtime.keys original) = .ok n := by
  simp only [parse, yaml, if_true, bind, Except.bind] at ok
  cases read : Yaml.read s.toList (runtime.yaml s) runtime.sets with
  | error failure => cases failure <;> simp [readYaml, read] at ok
  | ok original =>
    refine ⟨original, rfl, ?_⟩
    simp only [readYaml, read] at ok
    cases spelled : original.spellKeys (runtime.keys original) with
    | error fault => cases fault <;> simp [spelled] at ok
    | ok m =>
      simp only [spelled] at ok
      split at ok
      · cases ok
        rfl
      · contradiction

theorem loadedKeys {w : World} {source : String} {runtime : Runtime} {n : Node}
    (yaml : isYaml source = true) (loaded : (load w source runtime).2 = .ok n) :
    ∃ s original, (text w source).2 = .ok s ∧
      Yaml.read s.toList (runtime.yaml s) runtime.sets = .ok original ∧
      Node.Spelled original n ∧ n.spellKeys = .ok n ∧ (∀ i, ¬n.Held (.link i)) ∧
      (∀ es, n.Entered (.map es) → ∀ e ∈ es, ∃ name, e.1 = .str name) ∧
      (∀ a b, n.Entered (.pair a b) → original.Entered (.pair a b)) ∧
      (n.TextKeyed ↔ ∀ a b, n.Entered (.pair a b) → (Node.pair a b).TextKeyed) := by
  cases held : (text w source).2 with
  | error fault =>
    rw [loadMissed held] at loaded
    contradiction
  | ok s =>
    rw [loadFound held] at loaded
    obtain ⟨original, read, ok⟩ := yamlSpelled yaml loaded
    have tree := Yaml.readTree s.toList (runtime.yaml s) runtime.sets
    rw [read] at tree
    have spelled := Node.keysSpelled original _ n ok
    refine ⟨s, original, rfl, read, spelled, Node.spelledAgain spelled, ?_, ?_, ?_,
      Node.spelledKeyed tree.formed spelled⟩
    · intro i link
      exact tree.linkless i (Node.bareHeld spelled trivial link)
    · intro es entered
      obtain ⟨m, _, own⟩ := Node.spelledEntered spelled entered
      exact Node.spelledTexts own
    · intro a b entered
      exact Node.bareEntered spelled trivial entered

theorem okOfAny {r : Except Fault Node} {p : Node → Bool} (held : r.toOption.any p = true) :
    ∃ n, r = .ok n ∧ p n = true := by
  cases r with
  | error fault => simp [Except.toOption] at held
  | ok n => exact ⟨n, rfl, held⟩

theorem numberLoaded :
    let w : World := ⟨Files.empty.add (Path.parse "s.yaml") (.text "{? 200 : {? true : ok}}"), []⟩
    isYaml "s.yaml" = true ∧ ∃ n, (load w "s.yaml").2 = .ok n ∧
      n.same (.map [(.str "200", .map [(.str "true", .str "ok")])]) = true ∧
      n.spellKeys = .ok n ∧ ∀ es, n.Entered (.map es) → ∀ e ∈ es, ∃ name, e.1 = .str name := by
  intro w
  have ended : (load w "s.yaml").2.toOption.any
      (fun n => n.same (.map [(.str "200", .map [(.str "true", .str "ok")])])) = true := by
    decide +kernel
  obtain ⟨n, loaded, same⟩ := okOfAny ended
  obtain ⟨_, _, _, _, _, again, _, texts, _⟩ := loadedKeys (by decide) loaded
  exact ⟨by decide, n, loaded, same, again, texts⟩

-- A map inside a pair keeps the number that is its key.
theorem pairLoaded :
    let w : World :=
      ⟨Files.empty.add (Path.parse "s.yaml") (.text "{? x : !!pairs [{? a : {? 1 : 2}}]}"), []⟩
    ∃ n, (load w "s.yaml").2 = .ok n ∧ ¬n.TextKeyed := by
  intro w
  have ended : (load w "s.yaml").2.toOption.any (fun n => !n.textKeyed) = true := by
    decide +kernel
  obtain ⟨n, loaded, bare⟩ := okOfAny ended
  refine ⟨n, loaded, ?_⟩
  rw [← Node.textKeyedTrue]
  simpa using bare

end ClientGen.Source
