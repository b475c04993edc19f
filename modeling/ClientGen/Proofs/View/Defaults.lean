import ClientGen.Proofs.Text.Arguments
import ClientGen.Proofs.View.Attributes
import Mathlib.Data.List.Forall2

/-! The text behind a field of a dataclass, read as Python reads it: nothing, or a call whose
arguments tell whether the field has a default and what the property is called. A field has a
default just if it may be left out, renamed or not, so no field without one follows one with one. -/
namespace ClientGen

namespace View
open Text

def fieldCall : List Char := " = dataclasses.field(".toList

def callArguments? (call text : List Char) : Option (List (List Char)) :=
  if call.isPrefixOf text && text.getLast? == some ')' then
    arguments? (text.drop call.length).dropLast
  else none

def setsDefault (argument : List Char) : Bool :=
  keyword argument == "default".toList || keyword argument == "default_factory".toList

def givesDefault (text : List Char) : Bool :=
  match callArguments? fieldCall text with
  | some arguments => arguments.any setsDefault
  | none => !text.isEmpty

def behind (v : FieldView) : List Char := (v.default.getD "").toList

theorem callRead {as : List (List Char)} (some : as ≠ []) (whole : ∀ a ∈ as, Whole a)
    (call : List Char) :
    callArguments? call (call ++ (joinWith [',', ' '] as ++ [')'])) = .some as := by
  have ends : (call ++ (joinWith [',', ' '] as ++ [')'])).getLast? = .some ')' := by
    rw [← List.append_assoc, List.getLast?_concat]
  rw [callArguments?, ends, List.drop_left, List.dropLast_concat, argumentsJoined some whole]
  simp

theorem defaultRead {as : List (List Char)} (some : as ≠ []) (whole : ∀ a ∈ as, Whole a) :
    callArguments? fieldCall (defaultText as).toList = .some as := by
  have full : as.isEmpty ≠ true := by simpa using some
  have text : defaultText as = String.ofList (fieldCall ++ joinWith [',', ' '] as ++ [')']) :=
    if_neg full
  rw [text, String.toList_ofList, List.append_assoc, callRead some whole]

theorem argumentsRead {as : List (List Char)} (whole : ∀ a ∈ as, Whole a) :
    (callArguments? fieldCall (defaultText as).toList).getD [] = as ∧
      givesDefault (defaultText as).toList = as.any setsDefault := by
  by_cases some : as = []
  · rw [some]
    decide
  · rw [givesDefault, defaultRead some whole]
    exact ⟨rfl, rfl⟩

def told (literal : List Char) : List Char :=
  "metadata=\x7b\"name\": ".toList ++ literal ++ ['\x7d']

theorem toldParts (literal : List Char) : told literal =
    "metadata".toList ++ '=' :: ("\x7b\"name\": ".toList ++ literal ++ ['\x7d']) := by
  have parts : "metadata=\x7b\"name\": ".toList =
      "metadata".toList ++ '=' :: "\x7b\"name\": ".toList := by
    decide
  calc told literal
    _ = "metadata".toList ++ '=' :: "\x7b\"name\": ".toList ++ literal ++ ['\x7d'] :=
      congrArg (· ++ literal ++ ['\x7d']) parts
    _ = _ := by simp only [List.append_assoc, List.cons_append]

theorem toldKeyword (literal : List Char) : keyword (told literal) = "metadata".toList := by
  have letters : "metadata".toList.all isAsciiWord = true := by decide
  have ends : ¬isAsciiWord '=' = true := by decide
  rw [toldParts, keyword, List.takeWhile_append_of_pos (List.all_eq_true.mp letters),
    List.takeWhile_cons_of_neg ends, List.append_nil]

theorem wireNameWhole (name : List Char) : Whole (wireName name) := by
  have opens : outside.along? "metadata=\x7b\"name\": ".toList = some ⟨['\x7d'], .code⟩ := by
    decide
  have closes : Stand.along? ⟨['\x7d'], .code⟩ ['\x7d'] = some outside := by decide
  have along : outside.along? (told (jsonQuoted true name)) = some outside := by
    unfold told
    rw [alongAppend, alongAppend, opens, Option.bind_some, quotedAlong, Option.bind_some, closes]
  have first : isSpace 'm' = false := by decide
  refine ⟨along, ?_⟩
  change (told (jsonQuoted true name)).head?.any isSpace = false
  rw [toldParts]
  exact first

theorem leftOutWhole : Whole "default=None".toList := by
  constructor <;> decide

theorem leftOutKeyword : keyword "default=None".toList = "default".toList := by decide

section Field

variable (f : Field String) (name : List Char)

def fieldArguments : List (List Char) :=
  (if f.isOptional then ["default=None".toList] else []) ++
    if Naming.identifier name = name then [] else [wireName name]

theorem fieldArgumentsWhole : ∀ a ∈ fieldArguments f name, Whole a := by
  unfold fieldArguments
  refine List.forall_mem_append.mpr ⟨?_, ?_⟩
  · split
    · exact List.forall_mem_singleton.mpr leftOutWhole
    · exact nofun
  · split
    · exact nofun
    · exact List.forall_mem_singleton.mpr (wireNameWhole name)

theorem pythonArguments :
    (callArguments? fieldCall (behind (pythonField f name))).getD [] = fieldArguments f name :=
  (argumentsRead (fieldArgumentsWhole f name)).1

theorem wireNameSetsNone : setsDefault (wireName name) = false := by
  change (keyword (told _) == _ || keyword (told _) == _) = false
  rw [toldKeyword]
  decide

theorem defaultGiven : givesDefault (behind (pythonField f name)) = f.isOptional := by
  have first : (if f.isOptional then ["default=None".toList] else []).any setsDefault =
      f.isOptional := by
    cases f.isOptional <;> decide
  have second : (if Naming.identifier name = name then [] else [wireName name]).any setsDefault =
      false := by
    split <;> simp only [List.any_cons, List.any_nil, wireNameSetsNone, Bool.or_false]
  calc givesDefault (behind (pythonField f name))
    _ = (fieldArguments f name).any setsDefault := (argumentsRead (fieldArgumentsWhole f name)).2
    _ = f.isOptional := by rw [fieldArguments, List.any_append, first, second, Bool.or_false]

end Field

structure InOrder (shown fs : List FieldView) : Prop where
  all : fs.Perm shown
  requiredFirst : fs.Pairwise fun v w => v.isOptional = true → w.isOptional = true
  requiredKept : fs.filter (!·.isOptional) = shown.filter (!·.isOptional)
  optionalKept : fs.filter (·.isOptional) = shown.filter (·.isOptional)

theorem requiredFirstInOrder (shown : List FieldView) : InOrder shown (requiredFirst shown) where
  all := requiredFirstPerm shown
  requiredFirst := by
    have required : ∀ v ∈ shown.filter (!·.isOptional), v.isOptional = false := by simp
    have optional : ∀ v ∈ shown.filter (·.isOptional), v.isOptional = true := by simp
    rw [View.requiredFirst, sortedByParts]
    refine List.pairwise_append.mpr ⟨?_, ?_, ?_⟩
    · exact List.pairwise_of_forall_mem_list fun v here _ _ => by simp [required v here]
    · exact List.pairwise_of_forall_mem_list fun _ _ w there _ => optional w there
    · exact fun _ _ w there _ => optional w there
  requiredKept := by
    simp [View.requiredFirst, sortedByParts, List.filter_append, List.filter_filter]
  optionalKept := by
    simp [View.requiredFirst, sortedByParts, List.filter_append, List.filter_filter]

theorem fieldShown {f : Field String} {name : String} (named : f.name = .str name) :
    field .python f = .ok (pythonField f name.toList) := by
  rw [field, named]

theorem fieldsShown {fs : List (Field String)} {names : List String}
    (named : fs.map (·.name) = names.map .str) :
    ∃ shown, fields .python fs = .ok shown ∧
      List.Forall₂ (fun f v => field .python f = .ok v ∧ v.isOptional = f.isOptional) fs shown ∧
      ∀ v ∈ shown, givesDefault (behind v) = v.isOptional := by
  induction fs generalizing names with
  | nil => exact ⟨[], rfl, .nil, nofun⟩
  | cons f rest ih =>
    cases names with
    | nil => cases named
    | cons name names =>
      obtain ⟨here, later⟩ := List.cons.inj named
      obtain ⟨shown, others, each, given⟩ := ih later
      have own := fieldShown here
      refine ⟨pythonField f name.toList :: shown, ?_, .cons ⟨own, rfl⟩ each,
        List.forall_mem_cons.mpr ⟨defaultGiven f _, given⟩⟩
      rw [fields, own, others]
      rfl

theorem requiredComeFirst {d : Spelled} {names : List String}
    (named : d.fields.map (·.name) = names.map .str) :
    ∃ shown t, List.Forall₂ (fun f v => field .python f = .ok v ∧ v.isOptional = f.isOptional)
        d.fields shown ∧
      type .python d = .ok t ∧ t.name = d.name ∧ InOrder shown t.fields ∧
      (∀ v ∈ t.fields, givesDefault (behind v) = v.isOptional) ∧
      t.fields.Pairwise fun v w =>
        givesDefault (behind v) = true → givesDefault (behind w) = true := by
  obtain ⟨shown, all, each, given⟩ := fieldsShown named
  have order := requiredFirstInOrder shown
  have own : ∀ v ∈ requiredFirst shown, givesDefault (behind v) = v.isOptional :=
    fun v member => given v (order.all.mem_iff.mp member)
  refine ⟨shown, ⟨d.name, requiredFirst shown⟩, each, ?_, rfl, order, own, ?_⟩
  · rw [type, all]
    rfl
  · refine order.requiredFirst.imp_of_mem fun here there optional => ?_
    rwa [own _ here, own _ there]

def misleading : Spelled :=
  ⟨"Note", [⟨.str "text", "str", true, .null, true⟩, ⟨.str "note id", "str", false, .null, true⟩,
    ⟨.str "x, default=1", "str", false, .null, true⟩, ⟨.str "userName", "str", true, .null, true⟩]⟩

theorem misleadingOrdered :
    misleading.fields.map (·.name) =
      ["text", "note id", "x, default=1", "userName"].map .str ∧
    ∃ t, type .python misleading = .ok t ∧
      t.fields.map (·.default) =
        [some " = dataclasses.field(metadata=\x7b\"name\": \"note id\"\x7d)",
          some " = dataclasses.field(metadata=\x7b\"name\": \"x, default=1\"\x7d)",
          some " = dataclasses.field(default=None)",
          some " = dataclasses.field(default=None, metadata=\x7b\"name\": \"userName\"\x7d)"] ∧
      t.fields.map (fun v => givesDefault (behind v)) = [false, false, true, true] := by
  have named : misleading.fields.map (·.name) =
      ["text", "note id", "x, default=1", "userName"].map .str := rfl
  obtain ⟨shown, t, _, ok, _, _, given, _⟩ := requiredComeFirst named
  have optional : t.fields.map (·.isOptional) = [false, false, true, true] := by
    cases ok
    rfl
  refine ⟨named, t, ok, ?_, ?_⟩
  · cases ok
    decide
  · rw [← optional]
    exact List.map_congr_left given

end View
end ClientGen
