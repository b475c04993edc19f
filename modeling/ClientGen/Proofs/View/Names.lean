import ClientGen.Proofs.Compile.Paths
import ClientGen.Proofs.Naming.Identifier
import ClientGen.Proofs.View.References

/-! The names of the types in a view and the name of its class. The types are named by the paths to
the records that the resource compiles, and so by titles and by what leads to them. Such a name has
ASCII letters, digits and underscores only, but may be empty or begin with a digit. The name of the
class has all that the title of the resource has besides blanks. -/
namespace ClientGen

namespace Text

def isIdentifier : List Char → Bool
  | [] => false
  | c :: rest => !isAsciiDigit c && (c :: rest).all isAsciiWord

theorem identifierIff {s : List Char} : isIdentifier s = true ↔
    (∀ c ∈ s, isAsciiWord c = true) ∧ ∃ c, s.head? = some c ∧ isAsciiDigit c = false := by
  cases s with
  | nil => simp [isIdentifier]
  | cons c rest => simp [isIdentifier, and_comm]

end Text

namespace Compile
open Text

theorem formatWord (letters : List Char) :
    ∀ c ∈ (formatName letters).toList, isAsciiWord c = true := by
  simp [formatName]

theorem formatIdentifies {letters : List Char} : isIdentifier (formatName letters).toList = true ↔
    ∃ c, letters.find? isAsciiWord = some c ∧ isAsciiDigit c = false := by
  rw [identifierIff, and_iff_right (formatWord letters), formatName, String.toList_ofList,
    List.head?_filter]

end Compile

namespace View
open Compile Text

def Records (parts : Parts) (r : Resource) (letters : List Char) : Prop :=
  ∃ chain schema path c s, Starts parts r chain schema ∧
    Visits parts r.name chain schema path c s ∧ Own parts r.name s ∧
    letters = pathLetters parts (chain.flatMap (spelling parts)) schema path

variable {parts : Parts} {language : Language} {strict : Bool} {r : Resource} {name : String}
  {view : ResourceView}

theorem namesRecorded (ok : (resource parts language strict r name).result = .ok view)
    (n : String) :
    n ∈ view.types.map (·.name) ↔ ∃ letters, Records parts r letters ∧ n = formatName letters := by
  have run := resourceRuns ok
  obtain ⟨os, compiled, _⟩ := run.operations
  have covers := compiledOperationsCover compiled
  rw [(typesShown run.types).1]
  constructor
  · intro there
    obtain ⟨x, stands, rfl⟩ := List.mem_map.mp there
    rcases Registry.typesAmong stands with handed | before
    · obtain ⟨d, given, rfl⟩ := List.mem_map.mp handed
      obtain ⟨chain, schema, start, within⟩ := covers.source d given
      obtain ⟨path, c, s, visits, declares⟩ := handedDeclared within
      obtain ⟨entries, _, _, shape, held, own, _⟩ := declaresRecord declares
      refine ⟨_, ⟨chain, schema, path, c, s, start, visits, ⟨shape, entries, held, own⟩, rfl⟩, ?_⟩
      rw [← pathFormatted]
      exact declaredName visits declares
    · simp [Registry.empty] at before
  · rintro ⟨_, ⟨chain, schema, path, c, s, start, visits, own, rfl⟩, rfl⟩
    obtain ⟨t, ends, handed⟩ := covers.ends chain schema start
    obtain ⟨less, t', inner, within⟩ := visitsReach visits ends
    obtain ⟨d, given, declares⟩ := ownDeclares own inner
    rw [← pathFormatted, ← declaredName visits declares]
    exact (Registry.namesAddedAll run.added).1 _ (List.mem_map_of_mem (handed (within given)))

theorem classNamed (named : className parts r = .ok name) : ∃ base, baseName parts r = .ok base ∧
    name.toList = base ++ "Context".toList := by
  obtain ⟨base, based, named⟩ := Fault.bindOk named
  cases named
  exact ⟨base, based, String.toList_ofList⟩

theorem classIdentifies (base : List Char) : isIdentifier (base ++ "Context".toList) = true ↔
    (∀ c ∈ base, isAsciiWord c = true) ∧ ∀ c, base.head? = some c → isAsciiDigit c = false := by
  have context : ∀ c ∈ "Context".toList, isAsciiWord c = true := List.all_eq_true.mp (by decide)
  rw [identifierIff, List.forall_mem_append, and_iff_left context]
  have first : isAsciiDigit 'C' = false := by decide
  cases base with
  | nil => simp [first]
  | cons c rest => simp

theorem classOfView (ok : (resource parts language strict r name).result = .ok view) :
    view.className = name := by
  rw [resourceAbsorbs] at ok
  obtain ⟨os, absorbed, ok, _⟩ := Trail.bindEnds ok
  rw [finish] at ok
  obtain ⟨types, shown, ok, _⟩ := Trail.bindEnds ok
  obtain ⟨_, _, ok, _⟩ := Trail.bindEnds ok
  obtain ⟨title, _, ok, _⟩ := Trail.bindEnds ok
  cases ok
  rfl

theorem namesIdentify (named : className parts r = .ok name)
    (ok : (resource parts language strict r name).result = .ok view) :
    (∀ t ∈ view.types, ∀ c ∈ t.name.toList, isAsciiWord c = true) ∧
    ((∀ t ∈ view.types, isIdentifier t.name.toList = true) ↔ ∀ letters, Records parts r letters →
      ∃ c, letters.find? isAsciiWord = some c ∧ isAsciiDigit c = false) ∧
    ∃ base, baseName parts r = .ok base ∧ (isIdentifier view.className.toList = true ↔
      (∀ c ∈ base, isAsciiWord c = true) ∧ ∀ c, base.head? = some c → isAsciiDigit c = false) := by
  have recorded (p : String → Prop) : (∀ t ∈ view.types, p t.name) ↔
      ∀ letters, Records parts r letters → p (formatName letters) := by
    rw [← List.forall_mem_map]
    simp only [namesRecorded ok]
    exact ⟨fun all letters record => all _ ⟨letters, record, rfl⟩,
      fun all n ⟨letters, record, same⟩ => same ▸ all letters record⟩
  refine ⟨(recorded fun n => ∀ c ∈ n.toList, isAsciiWord c = true).mpr fun letters _ =>
    formatWord letters, ?_, ?_⟩
  · rw [recorded fun n => isIdentifier n.toList = true]
    exact forall₂_congr fun letters _ => formatIdentifies
  · obtain ⟨base, based, spelled⟩ := classNamed named
    exact ⟨base, based, by rw [classOfView ok, spelled, classIdentifies]⟩

def scan (title : String) : Resource :=
  ⟨.str "Scan", Node.object [("type", .str "object"), ("title", .str title), ("properties",
    Node.object [("in-frame", Node.object [("type", .str "object")])])], []⟩

theorem scanIdentified :
    className [] (scan "Full Scan") = .ok "FullScanContext" ∧
    ∃ view, (resource [] .python true (scan "Full Scan") "FullScanContext").result = .ok view ∧
      view.types.map (·.name) = ["FullScaninframe", "FullScan"] ∧
      isIdentifier view.className.toList = true ∧
      ∀ letters, Records [] (scan "Full Scan") letters →
        ∃ c, letters.find? isAsciiWord = some c ∧ isAsciiDigit c = false := by
  have compiled : ∃ view,
      (resource [] .python true (scan "Full Scan") "FullScanContext").result = .ok view ∧
      view.types.map (·.name) = ["FullScaninframe", "FullScan"] ∧
      ∀ t ∈ view.types, isIdentifier t.name.toList = true := ⟨_, rfl, rfl, by decide +kernel⟩
  obtain ⟨view, ok, names, types⟩ := compiled
  have named : className [] (scan "Full Scan") = .ok "FullScanContext" := rfl
  obtain ⟨_, records, base, based, whole⟩ := namesIdentify named ok
  cases based
  have letters : ∀ c ∈ "FullScan".toList, isAsciiWord c = true := List.all_eq_true.mp (by decide)
  have first : ∀ c, "FullScan".toList.head? = some c → isAsciiDigit c = false := by
    rintro c ⟨⟩
    decide
  exact ⟨named, view, ok, names, whole.mpr ⟨letters, first⟩, records.mp types⟩

theorem scanUnidentified :
    className [] (scan "3D Scan") = .ok "3DScanContext" ∧
    ∃ view, (resource [] .python true (scan "3D Scan") "3DScanContext").result = .ok view ∧
      view.types.map (·.name) = ["3DScaninframe", "3DScan"] ∧
      view.className = "3DScanContext" ∧
      (∀ t ∈ view.types, isIdentifier t.name.toList = false) ∧
      isIdentifier view.className.toList = false :=
  ⟨rfl, _, rfl, rfl, rfl, by decide +kernel, by decide +kernel⟩

end View
end ClientGen
