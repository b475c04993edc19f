import ClientGen.Proofs.Source.Nesting
import ClientGen.Proofs.Web.Exchange
import ClientGen.Proofs.Yaml.Values

/-! How loading ends. A file that cannot be read, an exchange that fails and a text that is no
document are told of; the rest escapes, each cause for its own reason. -/
namespace ClientGen

theorem Path.forbiddenParse (s : String) :
    Files.isForbidden (Path.parse s) = true ↔ '\x00' ∈ s.toList := by
  rw [← Text.splitAtMember (show '\x00' ≠ '/' by decide)]
  simp only [Files.isForbidden, Path.parse, List.any_map, List.any_filter, List.any_eq_true]
  refine exists_congr fun piece => and_congr_right fun _ => ?_
  simp only [Function.comp_apply, String.toList_ofList, Bool.and_eq_true, decide_eq_true_eq,
    List.contains_iff_mem, and_iff_right_iff_imp]
  rintro held
  constructor <;> rintro rfl
  · cases held
  · simp at held

namespace Node

def keyCauses : List Fault := [.longInteger, .wrongKind, .endless]

theorem spelledKeyTells (key : Node) : Tells (· ∈ keyCauses) (spelledKey key) := by
  unfold spelledKey
  split
  · trivial
  next n =>
    cases isLong n
    · exact trivial
    · exact show Fault.longInteger ∈ keyCauses by decide
  · split
    · trivial
    · exact show Fault.wrongKind ∈ keyCauses by decide

theorem enterTells (levels : Levels) : Tells (· ∈ keyCauses) (enter levels) := by
  unfold enter
  split
  · trivial
  · exact show Fault.endless ∈ keyCauses by decide

mutual
theorem spellKeysTells : (n : Node) → ∀ levels, Tells (· ∈ keyCauses) (n.spellKeys levels)
  | .map entries, levels => (enterTells levels).bind fun inner _ =>
    (spellKeysEntriesTell entries inner).bind fun _ _ => trivial
  | .list items, levels => (enterTells levels).bind fun inner _ =>
    (spellKeysListTells items inner).bind fun _ _ => trivial
  | .enclosing _, _ => show Fault.endless ∈ keyCauses by decide
  | .null, _ | .bool _, _ | .int _, _ | .float _, _ | .str _, _ | .bytes _, _ | .date _, _
  | .datetime _, _ | .set _, _ | .pair _ _, _ | .link _, _ => trivial
theorem spellKeysListTells :
    (items : List Node) → ∀ levels, Tells (· ∈ keyCauses) (spellKeysList items levels)
  | [], _ => trivial
  | n :: rest, levels => (spellKeysTells n levels).bind fun _ _ =>
    (spellKeysListTells rest levels).bind fun _ _ => trivial
theorem spellKeysEntriesTell : (entries : List (Node × Node)) →
    ∀ levels, Tells (· ∈ keyCauses) (spellKeysEntries entries levels)
  | [], _ => trivial
  | (k, v) :: rest, levels => (spelledKeyTells k).bind fun _ _ =>
    (spellKeysTells v levels).bind fun _ _ =>
      (spellKeysEntriesTell rest levels).bind fun _ _ => trivial
end

end Node

namespace Source

/-- Loading a source ends for a cause that is not told of the document. -/
inductive Escapes (w : World) (source : String) (runtime : Runtime) : Fault → Prop
  | path (file : isAddress source = false) (forbidden : '\x00' ∈ source.toList) :
    Escapes w source runtime .invalidValue
  | encoding {bytes : List UInt8} (file : isAddress source = false)
    (allowed : '\x00' ∉ source.toList)
    (held : w.files.content (Path.parse source) = .ok (.raw bytes)) :
    Escapes w source runtime .undecodable
  | exchange {cause : Fault} (address : isAddress source = true)
    (outside : ∀ told, cause ≠ .load told)
    (stopped : (Web.fetch w.web source).2 = .error (.fault cause)) :
    Escapes w source runtime cause
  | nesting {s : String} {position : Nat} (json : isYaml source = false)
    (held : (text w source).2 = .ok s)
    (deep : Json.readDocument s.toList (runtime.json s) = .error ⟨.nesting, position⟩) :
    Escapes w source runtime .endless
  | value {cause : Fault} {s : String} (yaml : isYaml source = true)
    (held : (text w source).2 = .ok s)
    (unread : Yaml.read s.toList (runtime.yaml s) runtime.sets = .error (.fault cause)) :
    Escapes w source runtime cause
  | key {cause : Fault} {s : String} {n : Node} (yaml : isYaml source = true)
    (held : (text w source).2 = .ok s)
    (read : Yaml.read s.toList (runtime.yaml s) runtime.sets = .ok n)
    (unspelled : n.spellKeys (runtime.keys n) = .error cause) (short : cause ≠ .longInteger) :
    Escapes w source runtime cause

def escapeCauses : List Fault :=
  [.invalidValue, .undecodable] ++ Yaml.valueCauses ++ Web.exchangeCauses

variable {w : World} {source s : String} {runtime : Runtime} {cause : Fault}

theorem textFile (file : isAddress source = false) :
    (text w source).2 = match w.files.readText (Path.parse source) with
      | .ok text => .ok text
      | .error (.file fault shown) => .error (.load (.unreadable shown fault))
      | .error fault => .error fault := by
  simp only [text, file]
  rfl

theorem textFetched (address : isAddress source = true) :
    (text w source).2 = match (Web.fetch w.web source).2 with
      | .ok text => .ok text
      | .error (.failed reason) => .error (.load (.unfetchable source reason))
      | .error (.fault cause) => .error cause := by
  simp only [text, address]
  rfl

theorem loadFound (held : (text w source).2 = .ok s) :
    (load w source runtime).2 = parse s source runtime := by
  change (text w source).2.bind _ = _
  rw [held]
  rfl

theorem loadMissed (missed : (text w source).2 = .error cause) :
    (load w source runtime).2 = .error cause := by
  change (text w source).2.bind _ = _
  rw [missed]
  rfl

theorem parseYamlFails (yaml : isYaml source = true)
    (failed : readYaml s source runtime = .error cause) :
    parse s source runtime = .error cause := by
  simp only [parse, yaml, if_true, failed]
  rfl

theorem escapesEnds (out : Escapes w source runtime cause) :
    (load w source runtime).2 = .error cause := by
  cases out with
  | path file forbidden =>
    have refused : Files.isForbidden (Path.parse source) = true :=
      (Path.forbiddenParse source).mpr forbidden
    apply loadMissed
    rw [textFile file, Files.readText, if_pos refused]
  | encoding file allowed held =>
    have free : ¬Files.isForbidden (Path.parse source) = true :=
      fun refused => allowed ((Path.forbiddenParse source).mp refused)
    apply loadMissed
    rw [textFile file, Files.readText, if_neg free, held]
  | exchange address outside stopped =>
    apply loadMissed
    rw [textFetched address, stopped]
  | nesting json held deep =>
    rw [loadFound held]
    simp only [parse, json, readJson, deep]
    rfl
  | value yaml held unread =>
    rw [loadFound held]
    apply parseYamlFails yaml
    rw [readYaml, unread]
  | key yaml held read unspelled short =>
    rw [loadFound held]
    apply parseYamlFails yaml
    rw [readYaml, read]
    simp only [unspelled]
    split
    next long => cases long; exact absurd rfl short
    · rfl

theorem bracketsEscape {n : Nat} (json : isYaml source = false)
    (held : (text w source).2 = .ok s) (limit : runtime.json s = some n)
    (deep : List.replicate (n + 1) '[' <+: s.toList) :
    (load w source runtime).2 = .error .endless := by
  have unread := Json.bracketsUnread deep
  rw [← limit] at unread
  exact escapesEnds (.nesting json held unread)

theorem unreadKnown {levels : Levels} {sets : Yaml.SetOrder}
    (unread : Yaml.read s.toList levels sets = .error (.fault cause)) : cause ∈ escapeCauses := by
  have known : cause ∈ Yaml.valueCauses := (Yaml.readValued _ _ _).ofError unread
  exact List.mem_append_left _ (List.mem_append_right _ known)

theorem unspelledKnown {n : Node} {levels : Levels} (unspelled : n.spellKeys levels = .error cause)
    (short : cause ≠ .longInteger) : cause ∈ escapeCauses := by
  have known : cause ∈ Node.keyCauses := (Node.spellKeysTells n levels).ofError unspelled
  have other : ∀ c ∈ Node.keyCauses, c ≠ .longInteger → c ∈ escapeCauses := by decide
  exact other cause known short

theorem escapesKnown (out : Escapes w source runtime cause) :
    cause ∈ escapeCauses ∨ ∃ address, w.web.lookup address = some (.fault cause) := by
  cases out with
  | path => exact .inl (by decide)
  | encoding => exact .inl (by decide)
  | exchange address outside stopped =>
    refine ((Web.fetchExchanged source).ofError stopped).imp_left fun known => ?_
    exact List.mem_append_right _ known
  | nesting => exact .inl (by decide)
  | value yaml held unread => exact .inl (unreadKnown unread)
  | key yaml held read unspelled short => exact .inl (unspelledKnown unspelled short)

theorem escapesUntold (out : Escapes w source runtime cause) (told : LoadFault) :
    cause ≠ .load told := by
  have untold : ∀ c ∈ escapeCauses, c ≠ .load told := by
    simp [escapeCauses, Yaml.valueCauses, Web.exchangeCauses]
  cases out with
  | path => exact untold _ (by decide)
  | encoding => exact untold _ (by decide)
  | exchange address outside stopped => exact outside told
  | nesting => exact untold _ (by decide)
  | value yaml held unread => exact untold _ (unreadKnown unread)
  | key yaml held read unspelled short => exact untold _ (unspelledKnown unspelled short)

def Accounted (w : World) (source : String) (runtime : Runtime) (fault : Fault) : Prop :=
  (∃ told, fault = .load told) ∨ Escapes w source runtime fault

theorem fileAccounted (file : isAddress source = false) :
    Tells (Accounted w source runtime) (text w source).2 := by
  rw [textFile file, Files.readText]
  by_cases refused : Files.isForbidden (Path.parse source) = true
  · rw [if_pos refused]
    exact .inr (.path file ((Path.forbiddenParse source).mp refused))
  · rw [if_neg refused]
    have allowed : '\x00' ∉ source.toList :=
      fun held => refused ((Path.forbiddenParse source).mpr held)
    cases held : w.files.content (Path.parse source) with
    | error fault => exact .inl ⟨_, rfl⟩
    | ok content =>
      cases content with
      | text s => trivial
      | raw bytes => exact .inr (.encoding file allowed held)

theorem addressAccounted (address : isAddress source = true) :
    Tells (Accounted w source runtime) (text w source).2 := by
  rw [textFetched address]
  cases fetched : (Web.fetch w.web source).2 with
  | ok s => trivial
  | error stop =>
    cases stop with
    | failed reason => exact .inl ⟨_, rfl⟩
    | fault cause =>
      by_cases outside : ∀ told, cause ≠ .load told
      · exact .inr (.exchange address outside fetched)
      · exact .inl (by simpa using outside)

theorem textAccounted : Tells (Accounted w source runtime) (text w source).2 := by
  cases address : isAddress source with
  | false => exact fileAccounted address
  | true => exact addressAccounted address

theorem readYamlAccounted (yaml : isYaml source = true) (held : (text w source).2 = .ok s) :
    Tells (Accounted w source runtime) (readYaml s source runtime) := by
  unfold readYaml
  split
  next n read =>
    split
    · exact .inl ⟨_, rfl⟩
    next short =>
      cases unspelled : n.spellKeys (runtime.keys n) with
      | ok spelled => trivial
      | error cause =>
        refine .inr (.key yaml held read unspelled ?_)
        rintro rfl
        exact short unspelled
  · exact .inl ⟨_, rfl⟩
  · exact .inl ⟨_, rfl⟩
  next cause unread => exact .inr (.value yaml held unread)

theorem readJsonAccounted (json : isYaml source = false) (held : (text w source).2 = .ok s) :
    Tells (Accounted w source runtime) (readJson s source runtime) := by
  unfold readJson
  split
  · trivial
  next position deep => exact .inr (.nesting json held deep)
  · exact .inl ⟨_, rfl⟩

theorem documentAccounted (n : Node) :
    Ends (Accounted w source runtime) (fun n => ∃ entries, n = .map entries) (match n with
      | .map _ => return n
      | _ => .error (.load (.notADocument source))) := by
  split
  · exact ⟨_, rfl⟩
  · exact .inl ⟨_, rfl⟩

theorem parseAccounted (held : (text w source).2 = .ok s) :
    Ends (Accounted w source runtime) (fun n => ∃ entries, n = .map entries)
      (parse s source runtime) := by
  unfold parse
  by_cases yaml : isYaml source = true
  · rw [if_pos yaml]
    exact (readYamlAccounted yaml held).bind fun n _ => documentAccounted n
  · rw [if_neg yaml]
    have json : isYaml source = false := by simpa using yaml
    exact (readJsonAccounted json held).bind fun n _ => documentAccounted n

theorem loadAccounted (w : World) (source : String) (runtime : Runtime) :
    Ends (Accounted w source runtime) (fun n => ∃ entries, n = .map entries)
      (load w source runtime).2 := by
  cases held : (text w source).2 with
  | error fault =>
    rw [loadMissed held]
    exact textAccounted.ofError held
  | ok s =>
    rw [loadFound held]
    exact parseAccounted held

-- Loading ends with a document or is told of, unless it ends for one of the causes of an escape.
theorem loadsOrTells (w : World) (source : String) (runtime : Runtime) :
    (((∃ entries, (load w source runtime).2 = .ok (.map entries)) ∨
        ∃ told, (load w source runtime).2 = .error (.load told)) ↔
      ∀ cause, ¬Escapes w source runtime cause) ∧
    (∀ cause, Escapes w source runtime cause →
      (load w source runtime).2 = .error cause ∧
        (cause ∈ escapeCauses ∨ ∃ address, w.web.lookup address = some (.fault cause))) ∧
    ((load w source runtime).2 = (load w source runtime.roomy).2 ∨
      (load w source runtime).2 = .error .endless) := by
  refine ⟨⟨?_, fun kept => ?_⟩, fun cause out => ⟨escapesEnds out, escapesKnown out⟩,
    loadCurbed w source runtime⟩
  · rintro ended cause out
    rcases ended with ⟨entries, ended⟩ | ⟨told, ended⟩
    · cases (escapesEnds out).symm.trans ended
    · have same : cause = .load told := Except.error.inj ((escapesEnds out).symm.trans ended)
      exact escapesUntold out told same
  · have accounted := loadAccounted w source runtime
    cases ended : (load w source runtime).2 with
    | ok n =>
      rw [ended] at accounted
      obtain ⟨entries, rfl⟩ := accounted
      exact .inl ⟨entries, rfl⟩
    | error fault =>
      rcases accounted.ofError ended with ⟨told, rfl⟩ | out
      · exact .inr ⟨told, rfl⟩
      · exact absurd out (kept fault)

-- The only byte of the file begins no character.
theorem bytesEscape :
    let w : World := ⟨Files.empty.add (Path.parse "s.json") (.ofBytes ⟨#[0xff]⟩), []⟩
    ∀ runtime : Runtime, (load w "s.json" runtime).2 = .error .undecodable ∧
      ¬((∃ entries, (load w "s.json" runtime).2 = .ok (.map entries)) ∨
        ∃ told, (load w "s.json" runtime).2 = .error (.load told)) := by
  intro w runtime
  have ended : (load w "s.json" runtime).2 = .error .undecodable :=
    escapesEnds (.encoding rfl (by decide) rfl)
  rw [ended]
  exact ⟨rfl, by rintro (⟨_, ⟨⟩⟩ | ⟨_, ⟨⟩⟩)⟩

end Source
end ClientGen
