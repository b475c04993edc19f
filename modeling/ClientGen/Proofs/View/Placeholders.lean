import ClientGen.Proofs.Naming.Segments
import ClientGen.Proofs.View.Arguments

/-! The path of an operation as its method writes it. Names in braces become placeholders if they
consist of word characters; others stay as they are. -/
namespace ClientGen

namespace Naming
open Text

variable {name s : List Char}

def isWordName (name : List Char) : Bool := name.all isWord

theorem wordHeld (some : name ≠ []) (word : isWordName name = true) : Held name := by
  refine ⟨some, fun c member => ?_⟩
  have word := List.all_eq_true.mp word c member
  simp only [isInner, Bool.and_eq_true, bne_iff_ne]
  refine ⟨⟨?_, ?_⟩, ?_⟩ <;> rintro rfl <;> exact absurd word (by decide)

theorem segmentNameParts (found : segmentName? s = some name) : name ≠ [] ∧
    isWordName name = true ∧ ∃ rest, s = '\x7b' :: name ++ '\x7d' :: rest := by
  unfold segmentName? at found
  split at found
  · rename_i text
    dsimp only at found
    split at found
    · cases found
    · rename_i rest behind some
      have whole := List.prefix_iff_eq_append.mp (List.takeWhile_prefix isWord (l := text))
      rw [behind] at whole
      cases found
      refine ⟨some, List.all_eq_true.mpr fun c => List.mem_takeWhile_imp, rest, ?_⟩
      rw [List.cons_append, whole]
    · cases found
  · cases found

theorem segmentNameWhole (some : name ≠ []) (word : isWordName name = true) (rest : List Char) :
    segmentName? ('\x7b' :: name ++ '\x7d' :: rest) = .some name := by
  have taken : (name ++ '\x7d' :: rest).takeWhile isWord = name := by
    rw [List.takeWhile_append_of_pos (List.all_eq_true.mp word),
      List.takeWhile_cons_of_neg (by decide), List.append_nil]
  simp only [List.cons_append, segmentName?, taken, List.drop_left]

theorem segmentNameNone (held : Held name) (foreign : isWordName name = false)
    (rest : List Char) : segmentName? ('\x7b' :: name ++ '\x7d' :: rest) = none := by
  cases found : segmentName? ('\x7b' :: name ++ '\x7d' :: rest) with
  | none => rfl
  | some name' =>
    obtain ⟨some', word, rest', same⟩ := segmentNameParts found
    have absent := heldAbsent (wordHeld some' word)
    have own := splitOnce (heldAbsent held).2 absent.2 (List.cons.inj same).2
    rw [own, word] at foreign
    contradiction

section Filling
variable {pattern : List Char} {rename : List Char → List Char} {fuel : Nat}

theorem fillPathLetter {c : Char} (kept : segmentName? (c :: s) = none) :
    fillPathFrom (fuel + 1) pattern rename (c :: s) =
      (c :: ·) <$> fillPathFrom fuel pattern rename s := by
  rw [fillPathFrom, kept]
  rfl

theorem fillPathPlain (absent : '\x7b' ∉ s) (t : List Char) :
    fillPathFrom (s.length + fuel) pattern rename (s ++ t) =
      (s ++ ·) <$> fillPathFrom fuel pattern rename t := by
  induction s with
  | nil => simp
  | cons c rest ih =>
    simp only [List.mem_cons, not_or] at absent
    have kept : segmentName? (c :: (rest ++ t)) = none := by
      unfold segmentName?
      split
      · rename_i here
        exact absurd (List.cons.inj here).1.symm absent.1
      · rfl
    rw [List.length_cons, Nat.add_right_comm, List.cons_append, fillPathLetter kept, ih absent.2]
    simp [Functor.map_map]

theorem fillPathName (some : name ≠ []) (word : isWordName name = true) (t : List Char) :
    fillPathFrom (fuel + 1) pattern rename ('\x7b' :: name ++ '\x7d' :: t) = (do
      let filled ← fill pattern (rename name)
      return filled ++ (← fillPathFrom fuel pattern rename t)) := by
  have found := segmentNameWhole some word t
  rw [List.cons_append] at found ⊢
  rw [fillPathFrom, found]
  simp only [← List.drop_drop, List.drop_left, List.drop_succ_cons, List.drop_zero]

theorem fillPathForeign (held : Held name) (foreign : isWordName name = false) (t : List Char) :
    fillPathFrom (name.length + 1 + fuel + 1) pattern rename ('\x7b' :: name ++ '\x7d' :: t) =
      ('\x7b' :: name ++ '\x7d' :: ·) <$> fillPathFrom fuel pattern rename t := by
  have absent : '\x7b' ∉ name ++ ['\x7d'] := by simpa using (heldAbsent held).1
  have plain := segmentNameNone held foreign t
  have joined : '\x7b' :: name ++ '\x7d' :: t = '\x7b' :: ((name ++ ['\x7d']) ++ t) := by simp
  have long : (name ++ ['\x7d']).length = name.length + 1 := by simp
  rw [joined] at plain ⊢
  rw [fillPathLetter plain, ← long, fillPathPlain absent]
  simp [Functor.map_map]

end Filling

end Naming

namespace Language
open Naming Text

variable {language : Language} {replaced : List Char → Bool} {name : List Char}
  {ss : List Segment}

def sign : Language → List Segment
  | .typescript => [.letter '$']
  | .python => []

def filled (language : Language) (replaced : List Char → Bool) : Segment → List Segment
  | .letter c => [.letter c]
  | .named name =>
    if replaced name then language.sign ++ [.named (language.renamed name)] else [.named name]

theorem identifierWordName (s : List Char) : isWordName (identifier s) = true := by
  refine List.all_eq_true.mpr fun c member => ?_
  have word := identifierWord s c member
  rwa [isWord, if_pos (asciiWordSmall word)]

theorem heldRenamed (held : Held name) : Held (language.renamed name) := by
  cases language with
  | typescript => exact held
  | python =>
    refine wordHeld (fun none => ?_) (identifierWordName name)
    have named := identifierIsName name
    have none : identifier name = [] := none
    rw [none] at named
    exact absurd named (by decide)

theorem signSettled (held : Held name) (settled : Settled ss) :
    Settled (language.sign ++ .named name :: ss) := by
  cases language with
  | typescript => exact .letter (.named held settled) (openedLetter (by decide) _)
  | python => exact .named held settled

theorem closingFilled (ss : List Segment) : closing (ss.flatMap (language.filled replaced)) =
    (closing ss).map fun (name, later) => (name, later.flatMap (language.filled replaced)) := by
  induction ss with
  | nil => rfl
  | cons first rest ih =>
    cases first with
    | letter c =>
      rw [List.flatMap_cons, filled, List.singleton_append, closing, closing, ih]
      split
      · rfl
      · split
        · cases closing rest <;> rfl
        · rfl
    | named name =>
      rw [List.flatMap_cons, filled]
      split
      · cases language <;> rfl
      · rfl

theorem filledSettled (settled : Settled ss) :
    Settled (ss.flatMap (language.filled replaced)) := by
  induction settled with
  | nil => exact .nil
  | @letter c ss _ kept ih =>
    rw [List.flatMap_cons, filled, List.singleton_append]
    refine .letter ih ?_
    by_cases brace : c = '\x7b'
    · subst brace
      refine openedKept.mpr fun name later held closed => ?_
      rw [closingFilled] at closed
      obtain ⟨⟨name', later'⟩, closed', same⟩ := Option.map_eq_some_iff.mp closed
      cases same
      exact openedKept.mp kept _ _ held closed'
    · exact openedLetter brace _
  | @named name ss held _ ih =>
    rw [List.flatMap_cons, filled]
    split
    · rw [List.append_assoc]
      exact signSettled (heldRenamed held) ih
    · exact .named held ih

theorem fillPlaceholder (language : Language) (name : List Char) :
    fill language.placeholder name = .ok (written (language.sign ++ [.named name])) := by
  have applied : Layout.apply ⟨false, 0, none⟩ name = .ok name := by
    simp [Layout.apply, heldWidth]
  have found : pieces language.placeholder.length language.placeholder =
      (written language.sign).map .text ++
        [.text '\x7b', .name .plain ⟨false, 0, none⟩, .text '\x7d'] := by
    cases language <;> decide
  rw [fill, found]
  cases language <;>
    simp [fillPieces, converted, applied, sign, written, Segment.written, pure, Except.pure, bind,
      Except.bind]

theorem settledLetter {c : Char} (settled : Settled (.letter c :: ss)) :
    segmentName? (c :: written ss) = none := by
  cases found : segmentName? (c :: written ss) with
  | none => rfl
  | some name =>
    obtain ⟨some, word, rest, same⟩ := segmentNameParts found
    have cuts := (writtenCut settled).symm.trans (congrArg cut same)
    rw [cutNamed (wordHeld some word)] at cuts
    cases cuts

theorem fillPathFilled (language : Language) (settled : Settled ss) {fuel : Nat}
    (enough : (written ss).length ≤ fuel) :
    fillPathFrom fuel language.placeholder language.renamed (written ss) =
      .ok (written (ss.flatMap (language.filled isWordName))) := by
  induction settled generalizing fuel with
  | nil => cases fuel <;> rfl
  | @letter c ss settled kept ih =>
    have whole : written (.letter c :: ss) = c :: written ss := rfl
    rw [whole] at enough ⊢
    cases fuel with
    | zero => simp at enough
    | succ fuel =>
      rw [fillPathLetter (settledLetter (.letter settled kept)), ih (Nat.le_of_succ_le_succ enough)]
      rfl
  | @named name ss held _ ih =>
    have long : name.length + 1 + (written ss).length + 1 ≤ fuel := by
      simp only [writtenNamed, List.cons_append, List.length_cons, List.length_append] at enough
      omega
    rw [writtenNamed, List.flatMap_cons, filled]
    cases word : isWordName name with
    | true =>
      obtain ⟨more, rfl⟩ := Nat.exists_eq_add_of_le' (Nat.le_of_add_left_le long)
      rw [fillPathName held.some word, fillPlaceholder, ih (by omega), if_pos rfl]
      exact congrArg Except.ok (writtenAppend _ _).symm
    | false =>
      obtain ⟨more, rfl⟩ : ∃ more, fuel = name.length + 1 + more + 1 :=
        ⟨fuel - (name.length + 1) - 1, by omega⟩
      rw [fillPathForeign held word, ih (by omega), if_neg Bool.false_ne_true]
      exact congrArg Except.ok (writtenNamed _ _).symm

def filledPath (language : Language) (replaced : List Char → Bool) (path : List Char) :
    List Char :=
  written ((cut path).flatMap (language.filled replaced))

theorem fillPathSegments (language : Language) (path : List Char) :
    fillPath language.placeholder language.renamed path =
      .ok (language.filledPath isWordName path) := by
  have filled := fillPathFilled language (cutSettled path) (Nat.le_refl _)
  rwa [cutWritten] at filled

theorem holesFilled (language : Language) (replaced : List Char → Bool) (path : List Char) :
    holes (language.filledPath replaced path) =
      (holes path).map fun n => if replaced n then language.renamed n else n := by
  rw [holes, filledPath, writtenCut (filledSettled (cutSettled path)), holes]
  induction cut path with
  | nil => rfl
  | cons first rest ih =>
    cases first with
    | letter c => exact ih
    | named name =>
      rw [List.flatMap_cons, filled, names, List.map_cons, ← ih]
      split
      · cases language <;> rfl
      · rfl

theorem unlikePlaceholder (language : Language) (held : Held name) (foreign : isWordName name = false)
    (ss ts : List Segment) : written (.named name :: ss) ≠
      written (language.sign ++ .named (language.renamed name) :: ts) := by
  intro same
  cases language with
  | typescript => cases same
  | python =>
    have same : name ++ '\x7d' :: written ss = renamed .python name ++ '\x7d' :: written ts := by
      simpa [written, Segment.written, sign] using same
    have held' : Held (renamed .python name) := heldRenamed held
    have own : name = identifier name := splitOnce (heldAbsent held).2 (heldAbsent held').2 same
    rw [own, identifierWordName] at foreign
    contradiction

theorem filledSame (settled : Settled ss) :
    written (ss.flatMap (language.filled isWordName)) =
      written (ss.flatMap (language.filled fun _ => true)) ↔
    ∀ n ∈ names ss, isWordName n = true := by
  induction settled with
  | nil => simp [names]
  | @letter c ss _ _ ih => simpa [filled, written, Segment.written, names] using ih
  | @named name ss held _ ih =>
    rw [List.flatMap_cons, List.flatMap_cons, names, List.forall_mem_cons, ← ih]
    cases word : isWordName name with
    | true =>
      simp only [filled, word, ↓reduceIte, writtenAppend, List.append_cancel_left_eq, true_and]
    | false =>
      simp only [filled, word]
      simpa using unlikePlaceholder language held word _ _

theorem filledPathSame (language : Language) (path : List Char) :
    language.filledPath isWordName path = language.filledPath (fun _ => true) path ↔
      ∀ n ∈ holes path, isWordName n = true :=
  filledSame (cutSettled path)

theorem parameterRenamed (language : Language) (n : String) :
    language.parameterName (.str n) = .ok (.str (String.ofList (language.renamed n.toList))) := by
  cases language with
  | typescript => simp [parameterName, renamed]
  | python => rfl

end Language

namespace View
open Naming

variable {parts : Parts} {language : Language} {owner : Node}

theorem operationPath {o : Operation} {v : OperationView}
    (ok : (operation parts language owner o).result = .ok v) :
    v.templatizedPath.toList = language.filledPath isWordName o.path.toList := by
  obtain ⟨_, _, _, _, _, run⟩ := operationRuns ok
  exact Except.ok.inj (run.fills.symm.trans (language.fillPathSegments o.path.toList))

theorem pathArgument {o : Operation} {v : OperationView} {name : String}
    (ok : (operation parts language owner o).result = .ok v)
    (declared : .str name ∈ (o.located parts "path").map fun p => parts.close p.name) :
    .str (String.ofList (language.renamed name.toList)) ∈ v.parameters.map (·.name) := by
  obtain ⟨_, inPath, called, named⟩ := operationArguments ok
  have shown : language.parameterName (.str name) ∈ inPath.map .ok :=
    called ▸ List.mem_map_of_mem declared
  rw [language.parameterRenamed] at shown
  obtain ⟨n, own, here⟩ := List.mem_map.mp shown
  rw [named, ← Except.ok.inj here]
  exact List.mem_append_left _ own

theorem placeholdersNamed {o : Operation} {v : OperationView} {names : List String}
    (ok : (operation parts language owner o).result = .ok v)
    (path : (o.located parts "path").map (fun p => parts.close p.name) = names.map .str)
    (exactly : ∀ n : String, n ∈ names ↔ Held n.toList ∧
      ∃ before rest, o.path.toList = before ++ '\x7b' :: n.toList ++ '\x7d' :: rest) :
    v.templatizedPath.toList = language.filledPath isWordName o.path.toList ∧
    (v.templatizedPath.toList = language.filledPath (fun _ => true) o.path.toList ↔
      ∀ n ∈ names, isWordName n.toList = true) ∧
    (holes v.templatizedPath.toList = (holes o.path.toList).map fun n =>
      if isWordName n then language.renamed n else n) ∧
    ((∀ n ∈ names, isWordName n.toList = true) → ∀ n ∈ holes v.templatizedPath.toList,
      .str (String.ofList n) ∈ v.parameters.map (·.name)) := by
  have filled := operationPath ok
  simp only [← holesIff] at exactly
  have words : (∀ n ∈ holes o.path.toList, isWordName n = true) ↔
      ∀ n ∈ names, isWordName n.toList = true := by
    constructor
    · exact fun each n member => each _ ((exactly n).mp member)
    · intro each n member
      have word := each (String.ofList n) ((exactly _).mpr (by simpa using member))
      simpa using word
  have renamed := language.holesFilled isWordName o.path.toList
  rw [← filled] at renamed
  refine ⟨filled, ?_, renamed, fun word n member => ?_⟩
  · rw [filled, language.filledPathSame, words]
  · rw [renamed] at member
    obtain ⟨n, hole, rfl⟩ := List.mem_map.mp member
    rw [if_pos (words.mpr word n hole)]
    have known : String.ofList n ∈ names := (exactly _).mpr (by simpa using hole)
    have shown := pathArgument ok (path ▸ List.mem_map_of_mem known)
    simpa using shown

def visiting (path : String) (names : List String) : Operation :=
  { searching names [] with path := path }

def toyPath : String := "/pets/\x7bpetId\x7d/toys/\x7btoy_id\x7d"

theorem toyVisited :
    holes toyPath.toList = ["petId", "toy_id"].map String.toList ∧
    ∃ v, (operation [] .python (.str "Toy") (visiting toyPath ["petId", "toy_id"])).result =
        .ok v ∧
      v.templatizedPath = "/pets/\x7bpet_id\x7d/toys/\x7btoy_id\x7d" ∧
      v.templatizedPath.toList = Language.python.filledPath (fun _ => true) toyPath.toList ∧
      ∀ n ∈ holes v.templatizedPath.toList,
        .str (String.ofList n) ∈ v.parameters.map (·.name) := by
  have cuts : holes toyPath.toList = ["petId", "toy_id"].map String.toList := by decide +kernel
  have shown : ∃ v, (operation [] .python (.str "Toy")
      (visiting toyPath ["petId", "toy_id"])).result = .ok v ∧
      v.templatizedPath = "/pets/\x7bpet_id\x7d/toys/\x7btoy_id\x7d" := ⟨_, rfl, rfl⟩
  have path : ((visiting toyPath ["petId", "toy_id"]).located [] "path").map
      (fun p => Parts.close [] p.name) = ["petId", "toy_id"].map Node.str := rfl
  have exactly (n : String) : n ∈ ["petId", "toy_id"] ↔ Held n.toList ∧
      ∃ before rest, toyPath.toList = before ++ '\x7b' :: n.toList ++ '\x7d' :: rest := by
    rw [← holesIff, cuts, List.mem_map_of_injective fun _ _ => String.toList_injective]
  have words : ∀ n ∈ ["petId", "toy_id"], isWordName n.toList = true := by decide +kernel
  obtain ⟨v, ok, filled⟩ := shown
  obtain ⟨_, whole, _, each⟩ := placeholdersNamed ok path exactly
  exact ⟨cuts, v, ok, filled, whole.mpr words, each words⟩

theorem petUnvisited :
    holes "/pets/\x7bpet-id\x7d".toList = ["pet-id".toList] ∧
    (∃ v, (operation [] .python (.str "Pet") (visiting "/pets/\x7bpet-id\x7d" ["pet-id"])).result =
        .ok v ∧
      v.parameters.map (·.name) = [.str "pet_id"] ∧
      v.templatizedPath = "/pets/\x7bpet-id\x7d" ∧
      Language.python.filledPath (fun _ => true) "/pets/\x7bpet-id\x7d".toList =
        "/pets/\x7bpet_id\x7d".toList) ∧
    ∃ v, (operation [] .typescript (.str "Pet")
        (visiting "/pets/\x7bpet-id\x7d" ["pet-id"])).result = .ok v ∧
      v.templatizedPath = "/pets/\x7bpet-id\x7d" ∧
      Language.typescript.filledPath (fun _ => true) "/pets/\x7bpet-id\x7d".toList =
        "/pets/$\x7bpet-id\x7d".toList :=
  ⟨by decide +kernel, ⟨_, rfl, rfl, rfl, by decide +kernel⟩, _, rfl, rfl, by decide +kernel⟩

end View
end ClientGen
