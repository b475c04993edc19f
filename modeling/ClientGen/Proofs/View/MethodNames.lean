import ClientGen.Proofs.Naming.Letters
import ClientGen.View.Resource
import Mathlib.Data.List.Nodup
import Mathlib.Data.List.Perm.Subperm

/-! The methods of a class have names of their own. From left to right, a method keeps its name
where no method before it is called so. Otherwise the name is taken with the HTTP method behind it,
and if need be with the least number, from two on, that makes it free. -/
namespace ClientGen.View

def methodNamed (name method : String) : String :=
  name ++ "_" ++ String.ofList (Text.lower method.toList)

def numberedName (name : String) (k : Nat) : String := name ++ "_" ++ toString k

/-- The name that a method is given when the names in `taken` are. -/
inductive Chosen (taken : List String) (name method : String) : String → Prop
  | own (free : name ∉ taken) : Chosen taken name method name
  | withMethod (own : name ∈ taken) (free : methodNamed name method ∉ taken) :
      Chosen taken name method (methodNamed name method)
  | withNumber {k : Nat} (own : name ∈ taken) (plain : methodNamed name method ∈ taken)
      (two : 2 ≤ k) (soon : k ≤ taken.length + 1)
      (free : numberedName (methodNamed name method) k ∉ taken)
      (least : ∀ j, 2 ≤ j → j < k → numberedName (methodNamed name method) j ∈ taken) :
      Chosen taken name method (numberedName (methodNamed name method) k)

inductive NamedInTurn : List String → List (String × String) → List String → Prop
  | nil {taken} : NamedInTurn taken [] []
  | cons {taken name method final rest finals} (first : Chosen taken name method final)
      (next : NamedInTurn (final :: taken) rest finals) :
      NamedInTurn taken ((name, method) :: rest) (final :: finals)

theorem numberedOnce {name : String} {i j : Nat}
    (same : numberedName name i = numberedName name j) : i = j := by
  have letters := congrArg String.toList same
  simp only [numberedName, String.toList_append] at letters
  have digits := congrArg (Nat.ofDigitChars 10 · 0) (List.append_cancel_left letters)
  simpa [Nat.toString_eq_ofList_toDigits] using digits

theorem numberedLonger (name : String) (k : Nat) : numberedName name k ≠ name := by
  intro same
  have long := congrArg (fun s => s.toList.length) same
  simp only [numberedName, String.toList_append, List.length_append] at long
  have line : "_".toList.length = 1 := rfl
  omega

theorem takenFew {taken : List String} {name : String} {n : Nat} (own : name ∈ taken)
    (numbers : ∀ j, 2 ≤ j → j < 2 + n → numberedName name j ∈ taken) : n + 1 ≤ taken.length := by
  let rows := name :: (List.range' 2 n).map (numberedName name)
  have apart : rows.Nodup := by
    have numbersApart := List.Nodup.map (f := numberedName name) (fun _ _ => numberedOnce)
      (List.nodup_range' (s := 2) (n := n))
    refine List.nodup_cons.mpr ⟨fun member => ?_, numbersApart⟩
    obtain ⟨k, _, same⟩ := List.mem_map.mp member
    exact numberedLonger name k same
  have inside : rows ⊆ taken := by
    refine List.cons_subset.mpr ⟨own, fun s member => ?_⟩
    obtain ⟨j, between, rfl⟩ := List.mem_map.mp member
    obtain ⟨low, high⟩ := List.mem_range'_1.mp between
    exact numbers j low high
  simpa [rows] using (List.subperm_of_subset apart inside).length_le

theorem numberedStep (taken : List String) (name : String) (fuel k : Nat) :
    numbered taken name (fuel + 1) k =
      if numberedName name k ∈ taken then numbered taken name fuel (k + 1)
      else numberedName name k := by
  simp [numbered, numberedName]

theorem numberedFinds (taken : List String) (name : String) (fuel k : Nat) :
    ∃ j, numbered taken name fuel k = numberedName name j ∧ k ≤ j ∧ j ≤ k + fuel ∧
      (∀ i, k ≤ i → i < j → numberedName name i ∈ taken) ∧
      (j < k + fuel → numberedName name j ∉ taken) := by
  induction fuel generalizing k with
  | zero => exact ⟨k, rfl, k.le_refl, k.le_refl, fun _ _ _ => by omega, by omega⟩
  | succ fuel ih =>
    rw [numberedStep]
    by_cases there : numberedName name k ∈ taken
    · obtain ⟨j, found, low, high, before, free⟩ := ih (k + 1)
      rw [if_pos there]
      refine ⟨j, found, by omega, by omega, fun i start below => ?_, fun early => free (by omega)⟩
      rcases Nat.eq_or_lt_of_le start with rfl | later
      · exact there
      · exact before i later below
    · rw [if_neg there]
      exact ⟨k, rfl, k.le_refl, by omega, fun _ _ _ => by omega, fun _ => there⟩

theorem uniqueNameCases (taken : List String) (name method : String) :
    uniqueName taken name method =
      if name ∈ taken then
        if methodNamed name method ∈ taken then
          numbered taken (methodNamed name method) taken.length 2
        else methodNamed name method
      else name := by
  by_cases own : name ∈ taken <;> by_cases plain : methodNamed name method ∈ taken <;>
    simp_all [uniqueName, methodNamed]

theorem uniqueNameChosen (taken : List String) (name method : String) :
    Chosen taken name method (uniqueName taken name method) := by
  rw [uniqueNameCases]
  by_cases own : name ∈ taken
  · rw [if_pos own]
    by_cases plain : methodNamed name method ∈ taken
    · rw [if_pos plain]
      obtain ⟨k, found, two, late, least, free⟩ :=
        numberedFinds taken (methodNamed name method) taken.length 2
      have few : k - 2 + 1 ≤ taken.length :=
        takenFew plain fun j low high => least j low (by omega)
      rw [found]
      exact .withNumber own plain two (by omega) (free (by omega)) least
    · rw [if_neg plain]
      exact .withMethod own plain
  · rw [if_neg own]
    exact .own own

section Turns

variable {taken : List String} {pairs : List (String × String)} {finals : List String}

theorem chosenFree {name method final : String} (chosen : Chosen taken name method final) :
    final ∉ taken := by
  cases chosen with
  | own free => exact free
  | withMethod own free => exact free
  | withNumber own plain two soon free least => exact free

theorem uniqueNamesInTurn (taken : List String) (pairs : List (String × String)) :
    NamedInTurn taken pairs (uniqueNames taken pairs) := by
  induction pairs generalizing taken with
  | nil => exact .nil
  | cons pair rest ih => exact .cons (uniqueNameChosen _ _ _) (ih _)

theorem turnsApart (turns : NamedInTurn taken pairs finals) :
    finals.Nodup ∧ ∀ final ∈ finals, final ∉ taken := by
  induction turns with
  | nil => exact ⟨List.nodup_nil, fun _ => nofun⟩
  | cons first next ih =>
    obtain ⟨apart, free⟩ := ih
    refine ⟨List.nodup_cons.mpr ⟨fun member => free _ member List.mem_cons_self, apart⟩, ?_⟩
    refine List.forall_mem_cons.mpr ⟨chosenFree first, fun final member there => ?_⟩
    exact free final member (List.mem_cons_of_mem _ there)

theorem uniqueNamesKept (free : ∀ pair ∈ pairs, pair.1 ∉ taken)
    (apart : (pairs.map Prod.fst).Nodup) : uniqueNames taken pairs = pairs.map Prod.fst := by
  induction pairs generalizing taken with
  | nil => rfl
  | cons pair rest ih =>
    obtain ⟨here, later⟩ := List.forall_mem_cons.mp free
    obtain ⟨absent, apart⟩ := List.nodup_cons.mp apart
    have kept : uniqueName taken pair.1 pair.2 = pair.1 := by rw [uniqueNameCases, if_neg here]
    have others : ∀ other ∈ rest, other.1 ∉ pair.1 :: taken := by
      intro other member there
      rcases List.mem_cons.mp there with same | there
      · exact absent (same ▸ List.mem_map_of_mem member)
      · exact later other member there
    rw [uniqueNames, kept, List.map_cons, ih others apart]

theorem turnsKeep {p : String → Prop} (turns : NamedInTurn taken pairs finals)
    (own : ∀ pair ∈ pairs, p pair.1)
    (method : ∀ pair ∈ pairs, ∀ s, p s → p (methodNamed s pair.2))
    (number : ∀ s k, p s → p (numberedName s k)) : ∀ final ∈ finals, p final := by
  induction turns with
  | nil => exact fun _ => nofun
  | @cons taken name action final rest finals first next ih =>
    obtain ⟨here, own⟩ := List.forall_mem_cons.mp own
    obtain ⟨actions, method⟩ := List.forall_mem_cons.mp method
    refine List.forall_mem_cons.mpr ⟨?_, ih own method⟩
    cases first with
    | own free => exact here
    | withMethod own free => exact actions name here
    | withNumber own plain two soon free least => exact number _ _ (actions name here)

end Turns

theorem methodNamedIsName {name method : String} (ok : Language.python.isName name.toList = true)
    (letters : ∀ c ∈ method.toList, Text.isNamePart c = true) :
    Language.python.isName (methodNamed name method).toList = true := by
  have extended := Language.nameExtends ok (Text.lowerPart letters)
  simpa [methodNamed] using extended

theorem numberedNameIsName {name : String} (ok : Language.python.isName name.toList = true)
    (k : Nat) : Language.python.isName (numberedName name k).toList = true := by
  have digits : ∀ c ∈ Nat.toDigits 10 k, Text.isNamePart c = true := by
    intro c member
    have digit := Nat.isDigit_of_mem_toDigits (by decide) (by decide) member
    have word : Text.isAsciiDigit c = true := by
      simpa [Char.isDigit, Text.isAsciiDigit, Char.le_def] using digit
    exact Text.asciiWordPart (by simp [Text.isAsciiWord, Text.isAsciiAlnum, word])
  have extended := Language.nameExtends ok digits
  simpa [numberedName, Nat.toString_eq_ofList_toDigits] using extended

theorem uniqueNamesLength (taken : List String) (pairs : List (String × String)) :
    (uniqueNames taken pairs).length = pairs.length := by
  induction pairs generalizing taken with
  | nil => rfl
  | cons pair rest ih => simp [uniqueNames, ih]

def Renamed (os os' : List OperationView) : Prop :=
  List.Forall₂ (fun o o' => o' = { o with methodName := o'.methodName }) os os'

theorem renamedSame {os os' : List OperationView} (renamed : Renamed os os')
    (names : os'.map (·.methodName) = os.map (·.methodName)) : os' = os := by
  induction renamed with
  | nil => rfl
  | cons same _ ih =>
    obtain ⟨here, later⟩ := List.cons.inj names
    dsimp only at here
    rw [same, here, ih later]

theorem zippedRenamed {names : List String} {os : List OperationView}
    (long : names.length = os.length) :
    let os' := names.zipWith (fun name (o : OperationView) => { o with methodName := name }) os
    Renamed os os' ∧ os'.map (·.methodName) = names := by
  induction os generalizing names with
  | nil => exact ⟨by simp [Renamed], by simpa using long⟩
  | cons o rest ih =>
    cases names with
    | nil => simp at long
    | cons name names =>
      obtain ⟨same, named⟩ := ih (by simpa using long)
      exact ⟨.cons rfl same, congrArg (name :: ·) named⟩

def asked (os : List OperationView) : List (String × String) :=
  os.map fun o => (o.methodName, o.method)

theorem withUniqueNamesRenamed (os : List OperationView) : Renamed os (withUniqueNames os) ∧
    (withUniqueNames os).map (·.methodName) = uniqueNames [] (asked os) :=
  zippedRenamed (by simp [uniqueNamesLength])

theorem withUniqueNamesKept {os : List OperationView} (apart : (os.map (·.methodName)).Nodup) :
    withUniqueNames os = os := by
  obtain ⟨renamed, named⟩ := withUniqueNamesRenamed os
  have own : (asked os).map Prod.fst = os.map (·.methodName) := by simp [asked]
  rw [uniqueNamesKept (fun _ _ => List.not_mem_nil) (own ▸ apart), own] at named
  exact renamedSame renamed named

-- An HTTP method consists of ASCII letters, which are parts of a name in lower case too.
theorem methodNamesApart (os : List OperationView) :
    Renamed os (withUniqueNames os) ∧
    ((withUniqueNames os).map (·.methodName)).Nodup ∧
    NamedInTurn [] (asked os) ((withUniqueNames os).map (·.methodName)) ∧
    withUniqueNames (withUniqueNames os) = withUniqueNames os ∧
    ((∀ o ∈ os, Language.python.isName o.methodName.toList = true ∧
        ∀ c ∈ o.method.toList, Text.isNamePart c = true) →
      ∀ o ∈ withUniqueNames os, Language.python.isName o.methodName.toList = true) := by
  obtain ⟨renamed, named⟩ := withUniqueNamesRenamed os
  have turns := uniqueNamesInTurn [] (asked os)
  rw [← named] at turns
  have apart := (turnsApart turns).1
  refine ⟨renamed, apart, turns, withUniqueNamesKept apart, fun names => ?_⟩
  have finals := turnsKeep (p := fun s => Language.python.isName s.toList = true) turns
    (List.forall_mem_map.mpr fun o member => (names o member).1)
    (List.forall_mem_map.mpr fun o member s name => methodNamedIsName name (names o member).2)
    (fun s k name => numberedNameIsName name k)
  exact fun o member => finals _ (List.mem_map_of_mem member)

def crowded : List OperationView :=
  [("list_post", "POST"), ("list", "GET"), ("list", "POST"), ("list_post_2", "POST")].map fun o =>
    { id := .null, description := .null, summary := .null, method := o.2, path := "/"
      templatizedPath := "/", methodName := o.1, parameters := [], hasParams := false
      returnType := "Any" }

theorem crowdedApart :
    (∀ o ∈ crowded, Language.python.isName o.methodName.toList = true ∧
      ∀ c ∈ o.method.toList, Text.isNamePart c = true) ∧
    (withUniqueNames crowded).map (·.methodName) =
      ["list_post", "list", "list_post_2", "list_post_2_post"] ∧
    ∀ o ∈ withUniqueNames crowded, Language.python.isName o.methodName.toList = true := by
  have names : ∀ o ∈ crowded, Language.python.isName o.methodName.toList = true ∧
      ∀ c ∈ o.method.toList, Text.isNamePart c = true := by
    simp only [← List.all_eq_true]
    decide +kernel
  exact ⟨names, rfl, (methodNamesApart crowded).2.2.2.2 names⟩

end ClientGen.View
